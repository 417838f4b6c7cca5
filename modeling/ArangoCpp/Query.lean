/-
This file translates `ArangoDBQuery`: the kinds of query, and the texts of the clauses that
return the selected fields of a document and that ask for given values of fields.
-/

import ArangoCpp.Detail
import Std.Data.TreeMap

namespace ArangoCpp

/-- Types of collection to select. -/
inductive CollectionTypes : Type where
  | vertex | edge | all
  deriving DecidableEq, Repr

namespace CollectionTypes

def toNat : CollectionTypes → Nat
  | vertex => 0x0001
  | edge => 0x0002
  | all => 0x0003

/-- `operator&`. -/
def and (lhs rhs : CollectionTypes) : Bool := (lhs.toNat &&& rhs.toNat) != 0

end CollectionTypes

/-- The fields that a query selects: the name in the result for each path in the document. -/
abbrev QueryFields := Std.TreeMap Bytes Bytes

/-- The values that are asked for: the text of a value for each path in the document. -/
abbrev FieldValueMap := Std.TreeMap Bytes Bytes

inductive QueryType : Type where
  | undef | template | all | edgesFrom | edgesTo | edgesAll | aql
  deriving DecidableEq, Repr

structure ArangoDBQuery where
  queryType : QueryType
  findCondition : Bytes
  bindVars : Bytes
  queryOptions : Bytes
  queryFields : QueryFields

namespace ArangoDBQuery

/-- The constructor of an empty query, or of one for all documents. -/
def ofType (atype : QueryType) : ArangoDBQuery := ⟨atype, [], [], [], ∅⟩

/-- The constructor of a query text. Without a text it is a query for all documents. -/
def new (condition : Bytes) (atype : QueryType) : ArangoDBQuery :=
  ⟨if condition = [] then .all else atype, condition, [], [], ∅⟩

/-- `operator!=`. -/
def ne (iEl iEr : ArangoDBQuery) : Bool :=
  iEl.queryType != iEr.queryType || iEl.findCondition != iEr.findCondition

def setBindVars (jsonBindObject : Bytes) (query : ArangoDBQuery) : ArangoDBQuery :=
  { query with bindVars := jsonBindObject }

def setOptions (jsonOptionsObject : Bytes) (query : ArangoDBQuery) : ArangoDBQuery :=
  { query with queryOptions := jsonOptionsObject }

def setQueryFields (mapFields : QueryFields) (query : ArangoDBQuery) : ArangoDBQuery :=
  { query with queryFields := mapFields }

/-- One field of the returned object, behind those before it. -/
def addField (collvalue fldslst : Bytes) (fld : Bytes × Bytes) : Bytes :=
  (if fldslst = [] then fldslst else fldslst ++ ", ") ++
    " \"" ++ fld.2 ++ "\" : " ++ collvalue ++ "." ++ fld.1

/-- `generateRETURN` of given fields. -/
def generateRETURNOf (isDistinct : Bool) (mapFields : QueryFields) (collvalue : Bytes) : Bytes :=
  let retdata : Bytes := "\nRETURN " ++ (if isDistinct then text "DISTINCT " else [])
  if mapFields.isEmpty then retdata ++ collvalue ++ " "
  else retdata ++ " \x7b " ++ mapFields.toList.foldl (addField collvalue) [] ++ " \x7d "

/-- `generateRETURN` of the fields of the query. -/
def generateRETURN (isDistinct : Bool) (collvalue : Bytes) (query : ArangoDBQuery) : Bytes :=
  generateRETURNOf isDistinct query.queryFields collvalue

/-- One member of the template, behind those before it. -/
def addMember (generated : Bytes) (ent : Bytes × Bytes) : Bytes :=
  (if generated = [] then generated else generated ++ ", ") ++
    " \"" ++ ent.1 ++ "\" : " ++ ent.2 ++ " "

/-- One condition of the filter, behind those before it. -/
def addCondition (collvalue generated : Bytes) (ent : Bytes × Bytes) : Bytes :=
  (if generated = [] then generated else generated ++ " && ") ++
    collvalue ++ "." ++ ent.1 ++ " == " ++ ent.2

/-- The members of a template, or the clause of a query. -/
def generateFILTER (fldvalues : FieldValueMap) (asTemplate : Bool) (collvalue : Bytes) : Bytes :=
  if fldvalues.isEmpty then []
  else if asTemplate then fldvalues.toList.foldl addMember []
  else "\nFILTER " ++ fldvalues.toList.foldl (addCondition collvalue) [] ++ " "

end ArangoDBQuery

end ArangoCpp
