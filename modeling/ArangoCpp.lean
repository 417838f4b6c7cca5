import ArangoCpp.Pool
import ArangoCpp.Reconnect
import ArangoCpp.Handles
import ArangoCpp.Transmit
import ArangoCpp.Cursor
import ArangoCpp.Failures
import ArangoCpp.Creation
import ArangoCpp.Rejections
import ArangoCpp.Fronts
import ArangoCpp.Catalogue
import ArangoCpp.Server
import ArangoCpp.Documents
import ArangoCpp.Sanitization
import ArangoCpp.Batches
import ArangoCpp.Paths
import ArangoCpp.Aql
import ArangoCpp.Queries
import ArangoCpp.Headers
import ArangoCpp.Reception
import ArangoCpp.Payloads
import ArangoCpp.Settings
import ArangoCpp.Comparison
import ArangoCpp.JsonArguments
import ArangoCpp.Listing
import ArangoCpp.Edges
import ArangoCpp.Fields
import ArangoCpp.HeaderLines
import ArangoCpp.Tokens
import ArangoCpp.Classification
import ArangoCpp.Retries
import ArangoCpp.Clauses
import ArangoCpp.JsonScalar
import ArangoCpp.Filters
import ArangoCpp.Concurrency
import ArangoCpp.Sharing
import ArangoCpp.Collections
import ArangoCpp.Records
import ArangoCpp.Administration
import ArangoCpp.Pooling
import ArangoCpp.Leases
import ArangoCpp.Formats
