/-
This file says what the AQL texts that the client puts together mean to the lexer of the language.

`createAQLRequest` adds a clause that returns the selected fields unless it finds the letters
`RETURN` in the text. These letters may stand in a literal, in a comment or in a longer word, and
the keyword may be written in small letters; the clause is added rightly exactly when neither
makes a difference. `queryEdgesToFrom` puts the identifier of the start vertex between quotes, which
are legal in keys: the query has the tokens that it should have exactly when the key has no
quote.
-/

import ArangoCpp.Aql
import ArangoCpp.Batches
import ArangoCpp.Paths

namespace ArangoCpp

variable {env : Env}

/-! ### The clause that returns the fields -/

/-- The text has the keyword, in capital or small letters. -/
def HasReturn (source : Bytes) : Prop :=
  ∃ lexeme ∈ Aql.lexemes source, Aql.IsKeyword Aql.returnKeyword lexeme

instance (source : Bytes) : Decidable (HasReturn source) := List.decidableBEx _ _

/-- The text has the keyword in capital letters. -/
def ReturnInCapitals (source : Bytes) : Prop :=
  ∃ lexeme ∈ Aql.lexemes source, lexeme.kind = .word ∧ lexeme.text = Aql.returnKeyword

/-- The letters of the keyword stand in another lexeme. -/
def HidesReturn (source : Bytes) : Prop :=
  ∃ lexeme ∈ Aql.lexemes source, ¬ Aql.IsKeyword Aql.returnKeyword lexeme ∧
    Aql.returnKeyword <:+: lexeme.text

/-- Looking for the letters of the keyword tells whether there is one: if there is, one is in
capitals or the letters stand elsewhere; if there is none, the letters do not stand elsewhere. -/
def ReturnIsSeen (source : Bytes) : Prop :=
  (HasReturn source → ReturnInCapitals source ∨ HidesReturn source) ∧
    (¬ HasReturn source → ¬ HidesReturn source)

/-- A keyword that has the letters in capitals is made of them. -/
theorem eq_returnKeyword_of_infix {lexeme : Lexeme Aql.Kind UInt8}
    (isKeyword : Aql.IsKeyword Aql.returnKeyword lexeme)
    (occurs : Aql.returnKeyword <:+: lexeme.text) : lexeme.text = Aql.returnKeyword := by
  have length := congrArg List.length isKeyword.2
  rw [List.length_map] at length
  exact (occurs.eq_of_length length.symm).symm

theorem map_toUpper_returnKeyword :
    Aql.returnKeyword.map Aql.toUpper = Aql.returnKeyword := by decide

/-- The letters occur in capitals, or in another lexeme. -/
theorem infix_iff_capitals_or_hides (source : Bytes) :
    Aql.returnKeyword <:+: source ↔ ReturnInCapitals source ∨ HidesReturn source := by
  rw [Aql.infix_returnKeyword_iff]
  constructor
  · rintro ⟨lexeme, member, occurs⟩
    by_cases isKeyword : Aql.IsKeyword Aql.returnKeyword lexeme
    · exact Or.inl ⟨lexeme, member, isKeyword.1, eq_returnKeyword_of_infix isKeyword occurs⟩
    · exact Or.inr ⟨lexeme, member, isKeyword, occurs⟩
  · rintro (⟨lexeme, member, _, same⟩ | ⟨lexeme, member, _, occurs⟩)
    · exact ⟨lexeme, member, same ▸ List.infix_rfl⟩
    · exact ⟨lexeme, member, occurs⟩

theorem ReturnInCapitals.hasReturn {source : Bytes} (capitals : ReturnInCapitals source) :
    HasReturn source := by
  obtain ⟨lexeme, member, word, same⟩ := capitals
  exact ⟨lexeme, member, word, by rw [same, map_toUpper_returnKeyword]⟩

theorem infix_iff_hasReturn_iff (source : Bytes) :
    (Aql.returnKeyword <:+: source ↔ HasReturn source) ↔ ReturnIsSeen source := by
  have capitals := @ReturnInCapitals.hasReturn source
  rw [infix_iff_capitals_or_hides, ReturnIsSeen]
  tauto

/-- The text of a query with the clause, which is added when there is no such keyword. -/
def withReturn (query : ArangoDBQuery) : Bytes :=
  if HasReturn query.findCondition then query.findCondition
  else query.findCondition ++ query.generateRETURN false "u"

/-- The clause begins with a new line. -/
theorem exists_generateRETURNOf_eq (isDistinct : Bool) (mapFields : QueryFields)
    (collvalue : Bytes) :
    ∃ rest,
      ArangoDBQuery.generateRETURNOf isDistinct mapFields collvalue = Aql.newline :: rest := by
  unfold ArangoDBQuery.generateRETURNOf
  by_cases empty : mapFields.isEmpty = true
  · simp only [empty, if_true]
    exact ⟨_, rfl⟩
  · simp only [empty]
    exact ⟨_, rfl⟩

theorem aqlQuery_eq (query : ArangoDBQuery) :
    ArangoDBCollectionAPI.aqlQuery query =
      if Aql.returnKeyword <:+: query.findCondition then query.findCondition
      else query.findCondition ++ query.generateRETURN false "u" := by
  unfold ArangoDBCollectionAPI.aqlQuery
  by_cases occurs : Aql.returnKeyword <:+: query.findCondition
  · have found : Text.find (text "RETURN") query.findCondition ≠ none := fun none =>
      (Text.find_eq_none_iff _ _).mp none occurs
    rw [if_pos occurs, if_neg (by rwa [Option.isNone_iff_eq_none])]
  · have missing : Text.find (text "RETURN") query.findCondition = none :=
      (Text.find_eq_none_iff _ _).mpr occurs
    rw [if_neg occurs, if_pos (Option.isNone_iff_eq_none.mpr missing)]

/-- The clause is added rightly exactly when the search for the letters sees the keyword. -/
theorem aqlQuery_eq_withReturn_iff (query : ArangoDBQuery) :
    ArangoDBCollectionAPI.aqlQuery query = withReturn query ↔
      ReturnIsSeen query.findCondition := by
  have added : query.findCondition ++ query.generateRETURN false "u" ≠ query.findCondition := by
    intro same
    obtain ⟨rest, begins⟩ := exists_generateRETURNOf_eq false query.queryFields "u"
    have none : query.generateRETURN false "u" = [] := List.append_right_eq_self.mp same
    rw [ArangoDBQuery.generateRETURN, begins] at none
    cases none
  rw [← infix_iff_hasReturn_iff, aqlQuery_eq, withReturn]
  by_cases occurs : Aql.returnKeyword <:+: query.findCondition
  · by_cases has : HasReturn query.findCondition
    · simp only [occurs, has, if_true]
    · simp only [occurs, has, if_true, if_false, iff_false, not_true, added.symm]
  · by_cases has : HasReturn query.findCondition
    · simp only [occurs, has, if_true, if_false, added, false_iff, not_true]
    · simp only [occurs, has, if_false]

/-! ### The requests -/

/-- The request holds an object with this query. -/
def HttpMessage.CarriesQuery (env : Env) (request : HttpMessage) (source : Bytes) : Prop :=
  ∃ value, request.Holds env value ∧ value.get "query" = .ok (.string source)

theorem carriesQuery_createAQLRequest_iff (lawful : env.vpack.Lawful) {batchSize : Int32}
    {query : ArangoDBQuery} {request : HttpMessage}
    (created : ArangoDBCollectionAPI.createAQLRequest env batchSize query = .ok request)
    (source : Bytes) :
    request.CarriesQuery env source ↔ ArangoDBCollectionAPI.aqlQuery query = source := by
  obtain ⟨bindVars, bound, created⟩ :=
    bind_eq_ok_iff.mp (ArangoDBCollectionAPI.throwVelocypack_eq_ok_iff.mp created)
  obtain ⟨options, opted, added⟩ := bind_eq_ok_iff.mp created
  rw [addVPack_createREQUEST] at added
  cases added
  have holds := @holds_createREQUESTWith env .post "/_api/cursor" _
    (ArangoDBCollectionAPI.represented_aql (ArangoDBCollectionAPI.aqlQuery query)
      (ArangoDBCollectionAPI.represented_bindVarsData lawful (ofVpack_eq_ok_iff.mp bound))
      (ArangoDBCollectionAPI.represented_optionsData lawful (ofVpack_eq_ok_iff.mp opted)))
  constructor
  · rintro ⟨value, held, carried⟩
    rw [held.unique lawful holds] at carried
    injection carried with carried
    injection carried
  · intro same
    exact ⟨_, holds, congrArg (fun source => Except.ok (Slice.string source)) same⟩

/-- A query without bind parameters and options is sent. -/
theorem exists_createAQLRequest (batchSize : Int32) {query : ArangoDBQuery}
    (unbound : query.bindVars = []) (plain : query.queryOptions = []) :
    ∃ request, ArangoDBCollectionAPI.createAQLRequest env batchSize query = .ok request := by
  simp only [ArangoDBCollectionAPI.createAQLRequest, ArangoDBCollectionAPI.bindVarsData,
    ArangoDBCollectionAPI.optionsData, unbound, plain, ne_eq, not_true, if_false, pure,
    Except.pure, ofVpack_ok, ok_bind, addVPack_createREQUEST]
  exact ⟨_, rfl⟩

/-- The text of `selectAll` has the letters exactly when the name of the collection has them. -/
theorem infix_for_iff (collname : Bytes) :
    Aql.returnKeyword <:+: text "FOR u IN " ++ collname ↔ Aql.returnKeyword <:+: collname := by
  have blankFree : ∀ byte ∈ Aql.returnKeyword, byte ≠ 0x20 := by decide +kernel
  have front : ¬ Aql.returnKeyword <:+: text "FOR u IN " := by decide
  have last : [0x20] <:+ text "FOR u IN " := ⟨text "FOR u IN", by decide⟩
  rw [List.infix_append_iff_ne_nil]
  constructor
  · rintro (occurs | occurs | ⟨before, behind, nonempty, _, split, ends, _⟩)
    · exact absurd occurs front
    · exact occurs
    · have common := List.suffix_of_suffix_length_le last ends (List.length_pos_iff.mpr nonempty)
      have member : (0x20 : UInt8) ∈ Aql.returnKeyword := by
        rw [split]
        exact List.mem_append_left _ (common.subset (List.mem_singleton_self _))
      exact absurd rfl (blankFree _ member)
  · exact fun occurs => Or.inr (Or.inl occurs)

/-- The query of `selectAll`. -/
def selectAllQuery (collname : Bytes) (queryFields : QueryFields) : ArangoDBQuery :=
  (ArangoDBQuery.new ("FOR u IN " ++ collname) .aql).setQueryFields queryFields

/-- The text of `selectAll` ends with the clause exactly when the name of the collection does not
have the letters. -/
theorem suffix_aqlQuery_selectAll_iff (name : CollectionName) (queryFields : QueryFields) :
    ArangoDBQuery.generateRETURNOf false queryFields "u" <:+
        ArangoDBCollectionAPI.aqlQuery (selectAllQuery name.bytes queryFields) ↔
      ¬ Aql.returnKeyword <:+: name.bytes := by
  have condition : (selectAllQuery name.bytes queryFields).findCondition =
      text "FOR u IN " ++ name.bytes := rfl
  have clause : (selectAllQuery name.bytes queryFields).generateRETURN false "u" =
      ArangoDBQuery.generateRETURNOf false queryFields "u" := rfl
  rw [aqlQuery_eq, condition, clause, ← infix_for_iff name.bytes]
  by_cases occurs : Aql.returnKeyword <:+: text "FOR u IN " ++ name.bytes
  · rw [if_pos occurs]
    refine iff_of_false (fun ends => ?_) fun absent => absent occurs
    obtain ⟨rest, begins⟩ := exists_generateRETURNOf_eq false queryFields "u"
    rw [begins] at ends
    rcases List.mem_append.mp (ends.subset List.mem_cons_self) with member | member
    · revert member
      decide
    · have legal := name.legal Aql.newline member
      revert legal
      decide
  · rw [if_neg occurs]
    exact iff_of_true (List.suffix_append _ _) occurs

/-- What is sent for a query has the clause as it should have it exactly when the search for the
letters of the keyword sees it. What `selectAll` sends for selected fields ends with the clause
exactly when the name of the collection does not have these letters. -/
theorem appends_return_iff (lawful : env.vpack.Lawful) :
    (∀ (batchSize : Int32) (query : ArangoDBQuery) (request : HttpMessage),
      ArangoDBCollectionAPI.createAQLRequest env batchSize query = .ok request →
        (request.CarriesQuery env (withReturn query) ↔ ReturnIsSeen query.findCondition)) ∧
      ∀ (batchSize : Int32) (name : CollectionName) (queryFields : QueryFields)
        (request : HttpMessage), queryFields.isEmpty = false →
        ArangoDBCollectionAPI.selectAllRequest env batchSize name.bytes queryFields =
            .ok request →
          ((∃ source, request.CarriesQuery env source ∧
              ArangoDBQuery.generateRETURNOf false queryFields "u" <:+ source) ↔
            ¬ Aql.returnKeyword <:+: name.bytes) := by
  constructor
  · intro batchSize query request created
    rw [carriesQuery_createAQLRequest_iff lawful created, aqlQuery_eq_withReturn_iff]
  · intro batchSize name queryFields request nonempty created
    have createdQuery : ArangoDBCollectionAPI.createAQLRequest env batchSize
        (selectAllQuery name.bytes queryFields) = .ok request := by
      rw [ArangoDBCollectionAPI.selectAllRequest, nonempty] at created
      exact created
    simp only [carriesQuery_createAQLRequest_iff lawful createdQuery, exists_eq_left',
      suffix_aqlQuery_selectAll_iff]

/-- A library with the simple layout. -/
theorem appends_return_iff_simple :
    let env : Env := ⟨.simple [], true, true, [], false⟩
    (∀ (batchSize : Int32) (query : ArangoDBQuery) (request : HttpMessage),
      ArangoDBCollectionAPI.createAQLRequest env batchSize query = .ok request →
        (request.CarriesQuery env (withReturn query) ↔ ReturnIsSeen query.findCondition)) ∧
      ∀ (batchSize : Int32) (name : CollectionName) (queryFields : QueryFields)
        (request : HttpMessage), queryFields.isEmpty = false →
        ArangoDBCollectionAPI.selectAllRequest env batchSize name.bytes queryFields =
            .ok request →
          ((∃ source, request.CarriesQuery env source ∧
              ArangoDBQuery.generateRETURNOf false queryFields "u" <:+ source) ↔
            ¬ Aql.returnKeyword <:+: name.bytes) :=
  appends_return_iff (Velocypack.simple_lawful [])

/-- The clause is added behind a keyword in small letters. For a collection whose name has the
letters it is left out. -/
theorem not_appends_return :
    let env : Env := ⟨.simple [], true, true, [], false⟩
    let query : ArangoDBQuery := .new "FOR u IN c return u" .aql
    let queryFields : QueryFields := Std.TreeMap.ofList [(text "_id", text "_id")]
    (∃ request, ArangoDBCollectionAPI.createAQLRequest env 500 query = .ok request ∧
      ¬ request.CarriesQuery env (withReturn query)) ∧
      ∃ request, ArangoDBCollectionAPI.selectAllRequest env 500 "RETURNS" queryFields =
          .ok request ∧
        ¬ ∃ source, request.CarriesQuery env source ∧
          ArangoDBQuery.generateRETURNOf false queryFields "u" <:+ source := by
  intro env query queryFields
  have lawful : env.vpack.Lawful := Velocypack.simple_lawful []
  obtain ⟨request, created⟩ := @exists_createAQLRequest env 500 query rfl rfl
  obtain ⟨other, createdToo⟩ :=
    @exists_createAQLRequest env 500 (selectAllQuery "RETURNS" queryFields) rfl rfl
  refine ⟨⟨request, created, fun carries => ?_⟩, other, ?_, ?_⟩
  · have same := (carriesQuery_createAQLRequest_iff lawful created _).mp carries
    have seen : Aql.returnKeyword <:+: text "FOR u IN c return u" ↔
        HasReturn (text "FOR u IN c return u") :=
      (infix_iff_hasReturn_iff _).mpr ((aqlQuery_eq_withReturn_iff query).mp same)
    have has : HasReturn (text "FOR u IN c return u") := by decide +kernel
    have absent : ¬ Aql.returnKeyword <:+: text "FOR u IN c return u" := by decide +kernel
    exact absent (seen.mpr has)
  · have nonempty : queryFields.isEmpty = false := by decide +kernel
    rw [ArangoDBCollectionAPI.selectAllRequest, if_neg (by rw [nonempty]; exact Bool.false_ne_true)]
    exact createdToo
  · rintro ⟨source, carries, ends⟩
    rw [← (carriesQuery_createAQLRequest_iff lawful createdToo _).mp carries] at ends
    have legal : ∀ byte ∈ text "RETURNS", isNameByte byte = true := List.all_eq_true.mp rfl
    have absent := (suffix_aqlQuery_selectAll_iff ⟨"RETURNS", by decide, legal⟩ queryFields).mp ends
    have inside : Aql.returnKeyword <:+: text "RETURNS" := by decide
    exact absent inside

/-! ### Edge queries -/

/-- The keyword of a type of edge query. -/
def directionKeyword : QueryType → Option Bytes
  | .edgesFrom => some "OUTBOUND"
  | .edgesTo => some "INBOUND"
  | .edgesAll => some "ANY"
  | _ => none

/-- The tokens in front of the start vertex. -/
def edgeQueryFront (keyword : Bytes) : List (Lexeme Aql.Kind UInt8) :=
  [⟨.word, text "FOR"⟩, ⟨.word, text "v"⟩, ⟨.symbol, text ","⟩, ⟨.word, text "e"⟩,
    ⟨.word, text "IN"⟩, ⟨.number, text "1"⟩, ⟨.symbol, text ".."⟩, ⟨.number, text "1"⟩,
    ⟨.word, keyword⟩]

/-- The tokens behind the edge collections. -/
def edgeQueryBack : List (Lexeme Aql.Kind UInt8) :=
  [⟨.word, text "RETURN"⟩, ⟨.word, text "DISTINCT"⟩, ⟨.word, text "e"⟩]

/-- The text of an edge query. -/
def edgeQuerySource (keyword startVertex edgeCollections : Bytes) : Bytes :=
  (text "FOR v,e IN 1..1 " ++ keyword) ++ 0x20 :: (Aql.singleQuote :: (startVertex ++
    Aql.singleQuote :: (0x20 :: Aql.newline :: (edgeCollections ++
      Aql.newline :: text "RETURN DISTINCT e "))))

/-- The query that is made for the edge collections, whatever they are. -/
theorem queryEdgesToFrom_eq_bind {atype : QueryType} {keyword : Bytes}
    (edge : directionKeyword atype = some keyword) (startVertex edgeCollectionsdefault : Bytes) :
    ArangoDBCollectionAPI.queryEdgesToFrom env atype startVertex edgeCollectionsdefault =
      (ArangoDBCollectionAPI.edgeCollectionsOr env edgeCollectionsdefault).bind
        fun edgeCollections =>
          .done (.new (edgeQuerySource keyword startVertex edgeCollections) .aql) := by
  have clause : ArangoDBQuery.generateRETURNOf true ∅ "e" =
      Aql.newline :: text "RETURN DISTINCT e " := by decide
  have closing : text "' \n" = [Aql.singleQuote, 0x20, Aql.newline] := rfl
  have keywords : ArangoDBCollectionAPI.direction atype =
      .ok (keyword ++ [0x20, Aql.singleQuote]) := by
    cases atype <;> cases edge <;> rfl
  refine congrArg (Dialogue.bind _) (funext fun edgeCollections => ?_)
  simp only [keywords, clause, closing, edgeQuerySource]
  simp

/-- The query that is made for named edge collections. -/
theorem queryEdgesToFrom_eq {atype : QueryType} {keyword : Bytes}
    (edge : directionKeyword atype = some keyword) (startVertex : Bytes)
    {edgeCollections : Bytes} (nonempty : edgeCollections ≠ []) :
    ArangoDBCollectionAPI.queryEdgesToFrom env atype startVertex edgeCollections =
      .done (.new (edgeQuerySource keyword startVertex edgeCollections) .aql) := by
  rw [queryEdgesToFrom_eq_bind edge, ArangoDBCollectionAPI.edgeCollectionsOr, if_neg nonempty,
    Dialogue.pure_eq_done, Dialogue.done_bind]

/-- The tokens of an edge query, when the identifier has no quote. -/
theorem tokens_edgeQuerySource {atype : QueryType} {keyword : Bytes}
    (edge : directionKeyword atype = some keyword) {content : Bytes} (rest : Bytes)
    (quoteFree : Aql.singleQuote ∉ content) (backslashFree : Aql.backslash ∉ content) :
    Aql.tokens ((text "FOR v,e IN 1..1 " ++ keyword) ++ 0x20 :: (Aql.singleQuote :: (content ++
        Aql.singleQuote :: rest))) =
      edgeQueryFront keyword ++ Aql.literal content :: Aql.tokens rest := by
  have plain : ∀ byte ∈ text "FOR v,e IN 1..1 " ++ keyword, Aql.isPlain byte = true := by
    cases atype <;> cases edge <;> exact List.all_eq_true.mp rfl
  have front : Aql.tokens (text "FOR v,e IN 1..1 " ++ keyword) = edgeQueryFront keyword := by
    cases atype <;> cases edge <;> decide +kernel
  rw [Aql.tokens_append (by decide) plain, front,
    Aql.tokens_literal quoteFree backslashFree]

/-- What follows the start vertex is lexed by itself. -/
theorem tokens_behind {edgeCollections : Bytes}
    (plain : ∀ byte ∈ edgeCollections, Aql.isPlain byte = true) :
    Aql.tokens (0x20 :: Aql.newline :: (edgeCollections ++
        Aql.newline :: text "RETURN DISTINCT e ")) =
      Aql.tokens edgeCollections ++ edgeQueryBack := by
  have back : Aql.tokens (text "RETURN DISTINCT e ") = edgeQueryBack := by decide +kernel
  rw [Aql.tokens_blank (by decide), Aql.tokens_blank (by decide),
    Aql.tokens_append (by decide) plain, back]

/-- A list of collection names: their bytes, commas and spaces. -/
def IsNameList (names : Bytes) : Prop :=
  names ≠ [] ∧ ∀ byte ∈ names, isNameByte byte = true ∨ byte ∈ text ", "

theorem IsNameList.plain {names : Bytes} (list : IsNameList names) :
    ∀ byte ∈ names, Aql.isPlain byte = true := by
  have named : ∀ number : Fin 256, isNameByte (UInt8.ofNat number) = true →
      Aql.isPlain (UInt8.ofNat number) = true := by decide +kernel
  have between : ∀ byte ∈ text ", ", Aql.isPlain byte = true := by decide +kernel
  intro byte member
  rcases list.2 byte member with legal | comma
  · exact @forall_byte (fun byte => isNameByte byte = true → Aql.isPlain byte = true) named byte
      legal
  · exact between byte comma

/-- Names and slashes are not mistaken for quotes and backslashes. -/
theorem mem_identifier_iff (name : CollectionName) (key : Bytes) {byte : UInt8}
    (other : isNameByte byte = false) (notSlash : byte ≠ slash) :
    byte ∈ name.bytes ++ slash :: key ↔ byte ∈ key := by
  have absent : byte ∉ name.bytes := by
    intro member
    rw [name.legal byte member] at other
    cases other
  simp only [List.mem_append, List.mem_cons, absent, notSlash, false_or]

theorem LegalKey.backslash_notMem (key : LegalKey) : Aql.backslash ∉ key.bytes := by
  intro member
  have legal := key.legal Aql.backslash member
  revert legal
  decide

/-- The query for the edges of a document has the tokens that it should have, with the identifier
in one literal, exactly when the key has no single quote. -/
theorem queryEdgesToFrom_tokens_iff (name : CollectionName) (key : LegalKey) {atype : QueryType}
    {keyword : Bytes} (edge : directionKeyword atype = some keyword) {edgeCollections : Bytes}
    (list : IsNameList edgeCollections) :
    (∃ query : ArangoDBQuery,
      ArangoDBCollectionAPI.queryEdgesToFrom env atype (name.bytes ++ slash :: key.bytes)
          edgeCollections = .done query ∧
        Aql.tokens query.findCondition =
          edgeQueryFront keyword ++ Aql.literal (name.bytes ++ slash :: key.bytes) ::
            (Aql.tokens edgeCollections ++ edgeQueryBack)) ↔
      Aql.singleQuote ∉ key.bytes := by
  have quotes := mem_identifier_iff name key.bytes
    (show isNameByte Aql.singleQuote = false by decide) (by decide)
  have backslashFree : Aql.backslash ∉ name.bytes ++ slash :: key.bytes := by
    rw [mem_identifier_iff name key.bytes (by decide) (by decide)]
    exact key.backslash_notMem
  rw [queryEdgesToFrom_eq edge _ list.1, ← quotes]
  constructor
  · rintro ⟨query, made, tokens⟩ quoted
    injection made with made
    rw [← made] at tokens
    obtain ⟨content, rest, split, quoteFree⟩ := List.eq_append_cons_of_mem quoted
    have backslashFreeToo : Aql.backslash ∉ content := fun member =>
      backslashFree (split ▸ List.mem_append_left _ member)
    have cut := tokens_edgeQuerySource edge (rest ++ Aql.singleQuote :: (0x20 :: Aql.newline ::
      (edgeCollections ++ Aql.newline :: text "RETURN DISTINCT e "))) quoteFree backslashFreeToo
    have source : edgeQuerySource keyword (name.bytes ++ slash :: key.bytes) edgeCollections =
        (text "FOR v,e IN 1..1 " ++ keyword) ++ 0x20 :: (Aql.singleQuote :: (content ++
          Aql.singleQuote :: (rest ++ Aql.singleQuote :: (0x20 :: Aql.newline ::
            (edgeCollections ++ Aql.newline :: text "RETURN DISTINCT e "))))) := by
      rw [edgeQuerySource, split, List.append_assoc content, List.cons_append]
    have both := (congrArg Aql.tokens source).symm.trans tokens
    rw [cut] at both
    have literals := List.append_cancel_left both
    injection literals with same _
    have lengths := congrArg (fun lexeme : Lexeme Aql.Kind UInt8 => lexeme.text.length) same
    rw [split] at lengths
    simp only [Aql.literal, List.length_cons, List.length_append, List.length_nil] at lengths
    omega
  · intro quoteFree
    refine ⟨_, rfl, ?_⟩
    have whole := tokens_edgeQuerySource edge (0x20 :: Aql.newline :: (edgeCollections ++
      Aql.newline :: text "RETURN DISTINCT e ")) quoteFree backslashFree
    rw [tokens_behind list.plain] at whole
    exact whole

/-- The edges out of a document with a key without quotes. -/
theorem queryEdgesToFrom_tokens_iff_outbound :
    let env : Env := ⟨.simple [], true, true, [], false⟩
    let name : CollectionName := ⟨"c", by decide, List.all_eq_true.mp rfl⟩
    let key : LegalKey := ⟨"k", by decide, by decide, fun byte member =>
      Or.inl (List.all_eq_true.mp (show (text "k").all isKeyByte = true from rfl) byte member)⟩
    (∃ query : ArangoDBQuery,
      ArangoDBCollectionAPI.queryEdgesToFrom env .edgesFrom (name.bytes ++ slash :: key.bytes)
          "e1, e2" = .done query ∧
        Aql.tokens query.findCondition =
          edgeQueryFront "OUTBOUND" ++ Aql.literal (name.bytes ++ slash :: key.bytes) ::
            (Aql.tokens "e1, e2" ++ edgeQueryBack)) ↔
      Aql.singleQuote ∉ key.bytes := by
  intro env name key
  have list : IsNameList "e1, e2" := by
    refine ⟨by decide, fun byte member => ?_⟩
    have each := List.all_eq_true.mp (show ((text "e1, e2").all fun byte =>
      isNameByte byte || (text ", ").contains byte) = true from rfl) byte member
    simpa using each
  exact queryEdgesToFrom_tokens_iff name key rfl list

/-- The key `a'b` closes the literal behind its first letter. -/
theorem not_queryEdgesToFrom_tokens_quote :
    let env : Env := ⟨.simple [], true, true, [], false⟩
    (∀ byte ∈ text "a'b", isKeyByte byte = true) ∧
      ¬ ∃ query : ArangoDBQuery,
        ArangoDBCollectionAPI.queryEdgesToFrom env .edgesFrom "c/a'b" "e1" = .done query ∧
          Aql.tokens query.findCondition =
            edgeQueryFront "OUTBOUND" ++ Aql.literal "c/a'b" ::
              (Aql.tokens "e1" ++ edgeQueryBack) := by
  intro env
  refine ⟨List.all_eq_true.mp rfl, ?_⟩
  rintro ⟨query, made, tokens⟩
  have edge : directionKeyword .edgesFrom = some "OUTBOUND" := rfl
  rw [queryEdgesToFrom_eq edge _ (by decide)] at made
  injection made with made
  rw [← made] at tokens
  have cut := tokens_edgeQuerySource edge
    (text "b" ++ Aql.singleQuote :: (0x20 :: Aql.newline :: (text "e1" ++
      Aql.newline :: text "RETURN DISTINCT e ")))
    (show Aql.singleQuote ∉ text "c/a" by decide) (by decide)
  have both := cut.symm.trans tokens
  have literals := List.append_cancel_left both
  injection literals with same _
  revert same
  decide

end ArangoCpp
