import DocStore.Proofs.Command.Tokens
import DocStore.Proofs.Sql.Values
import DocStore.Proofs.Store.Effects

/-!
# Tables and the registry

A `Catalog` is what a database holds of the store's tables: their columns, and for a registry the
schema documents of its classes.  A text that creates a table, adds a column or reads or writes a
schema document is read as a `Deed`, and carried out as the database does: a column that is there is
refused, a table that is there is not created again, and the rows of a registry have distinct class
names.  Schema documents are terms, so what is put into them is what the text says.

The texts of the commands that define classes are such deeds (`Command.Does`), and `Catalog.engine`
is the engine that carries them out.
-/

namespace DocStore

open Sql

/-- The JSON form of a type is an object. -/
theorem FieldType.exists_toJson (t : FieldType) : ∃ o : Object, t.toJson = .obj o := by
  cases t <;> exact ⟨_, rfl⟩

/-- A table: its columns, and the schema documents of the classes that it registers, which may be
`NULL`. -/
structure Table where
  columns : List String
  schemas : Dict (Option Json)
  deriving DecidableEq

/-- The tables of a database by name. -/
abbrev Catalog := Dict Table

/-- The catalog with a table, which is added if there is none. -/
def Catalog.withTable (w : Catalog) (table : String) (columns : List String) : Catalog :=
  match w.get? table with
  | some _ => w
  | none => w.insert table ⟨columns, .empty⟩

/-- What a text asks of the tables. -/
inductive Deed where
  /-- Create a table unless there is one. -/
  | createTable (table : String) (columns : List String)
  | addColumn (table column : String)
  /-- Add the row of a class to a registry. -/
  | register (table className : String) (schema : List Token)
  /-- Replace the schema document of a class. -/
  | setSchema (table className : String) (schema : List Token)
  /-- Read a value from the schema document of a class. -/
  | readSchema (table className : String) (value : List Token) (column : String)

namespace Deed

/-! ### Reading texts -/

/-- The tokens in front of a word, and those from the word on. -/
def splitAtWord (word : String) (ts : List Token) : List Token × List Token :=
  ts.span fun t => t != ⟨.word, word⟩

/-- The names among tokens. -/
def names (ts : List Token) : List String :=
  ts.filterMap fun t =>
    match t.kind with
    | .name content => some content
    | _ => none

/-- The rest of an `INSERT` behind the table. -/
def ofInsert? (table : String) : List Token → Option Deed
  | ⟨.mark, "("⟩ :: ⟨.name "className", _⟩ :: ⟨.mark, ","⟩ :: ⟨.name "schema", _⟩ :: ⟨.mark, ","⟩ ::
      ⟨.name "isParseClass", _⟩ :: ⟨.mark, ")"⟩ :: ⟨.word, "VALUES"⟩ :: ⟨.mark, "("⟩ ::
      ⟨.string className, _⟩ :: ⟨.mark, ","⟩ :: rest =>
    (rest.dropSuffix? [⟨.mark, ","⟩, ⟨.word, "TRUE"⟩, ⟨.mark, ")"⟩]).map (.register table className)
  | _ => none

/-- The rest of an `UPDATE` of schema documents behind the sign of equality. -/
def ofUpdate? (table : String) (ts : List Token) : Option Deed :=
  match splitAtWord "WHERE" ts with
  | (value, [⟨.word, "WHERE"⟩, ⟨.name "className", _⟩, ⟨.mark, "="⟩, ⟨.string className, _⟩]) =>
    some (.setSchema table className value)
  | _ => none

/-- The rest of a `SELECT` of one value. -/
def ofSelect? (ts : List Token) : Option Deed :=
  match splitAtWord "AS" ts with
  | (value, [⟨.word, "AS"⟩, ⟨.name column, _⟩, ⟨.word, "FROM"⟩, ⟨.name table, _⟩, ⟨.word, "WHERE"⟩,
      ⟨.name "className", _⟩, ⟨.mark, "="⟩, ⟨.string className, _⟩]) =>
    some (.readSchema table className value column)
  | _ => none

/-- What tokens ask for.  The columns of a new table are the names in front of its key. -/
def read? : List Token → Option Deed
  | ⟨.word, "CREATE"⟩ :: ⟨.word, "TABLE"⟩ :: ⟨.word, "IF"⟩ :: ⟨.word, "NOT"⟩ :: ⟨.word, "EXISTS"⟩ ::
      ⟨.name table, _⟩ :: rest =>
    some (.createTable table (names (splitAtWord "PRIMARY" rest).1))
  | ⟨.word, "ALTER"⟩ :: ⟨.word, "TABLE"⟩ :: ⟨.name table, _⟩ :: ⟨.word, "ADD"⟩ ::
      ⟨.word, "COLUMN"⟩ :: ⟨.name column, _⟩ :: _ =>
    some (.addColumn table column)
  | ⟨.word, "INSERT"⟩ :: ⟨.word, "INTO"⟩ :: ⟨.name table, _⟩ :: rest => ofInsert? table rest
  | ⟨.word, "UPDATE"⟩ :: ⟨.name table, _⟩ :: ⟨.word, "SET"⟩ :: ⟨.name "schema", _⟩ ::
      ⟨.mark, "="⟩ :: rest => ofUpdate? table rest
  | ⟨.word, "SELECT"⟩ :: rest => ofSelect? rest
  | _ => none

/-! ### Values -/

/-- A name or a string as a word, which terms are made of. -/
def asWord (t : Token) : Token :=
  match t.kind with
  | .name _ | .string _ => ⟨.word, t.source⟩
  | _ => t

/-- The value of a string.  One that begins with a dollar sign is a path; any other may spell out
JSON. -/
def textValue (cast : String → Option Json) (s : String) : Value :=
  if s.toList.head? = some '$' then .text s
  else ((cast s).map Value.source).getD (.text s)

/-- The value of a word on a row with a schema document. -/
def wordValue? (cast : String → Option Json) (document : Option Json) (source : String) :
    Option Value :=
  match tokens? source with
  | some [⟨.name "schema", _⟩] => some ((document.map Value.json).getD .null)
  | some [⟨.string s, _⟩] => some (textValue cast s)
  | _ => none

/-- The value of a term on a row with a schema document.  `cast` reads texts as JSON. -/
def value? (cast : String → Option Json) (document : Option Json) (ts : List Token) :
    Option Value :=
  (Term.read? (ts.map asWord)).bind (Term.eval (fun m _ => m) (wordValue? cast document))

/-! ### Carrying out -/

/-- A text that cannot be read. -/
def unreadable : Nat := 1064

/-- A value that is no JSON document. -/
def noDocument : Nat := 3140

/-- The engine refuses a statement. -/
def refusal (number : Nat) : Fault := .engine (some number) ""

open EngineError in
/-- Carry out a deed: its answer is a number of rows and the rows that are read. -/
def act (cast : String → Option Json) (w : Catalog) :
    Deed → Except Fault (Nat × List Row) × Catalog
  | .createTable table columns => (.ok (0, []), w.withTable table columns)
  | .addColumn table column =>
    match w.get? table with
    | none => (.error (refusal noSuchTable), w)
    | some t =>
      if column ∈ t.columns then (.error (refusal duplicateField), w)
      else (.ok (0, []), w.insert table { t with columns := t.columns ++ [column] })
  | .register table className schema =>
    match w.get? table with
    | none => (.error (refusal noSuchTable), w)
    | some t =>
      match t.schemas.get? className, value? cast none schema with
      | some _, _ => (.error (refusal duplicateEntry), w)
      | none, some (.json d) =>
        (.ok (1, []), w.insert table { t with schemas := t.schemas.insert className (some d) })
      | none, _ => (.error (refusal noDocument), w)
  | .setSchema table className schema =>
    match w.get? table with
    | none => (.error (refusal noSuchTable), w)
    | some t =>
      match t.schemas.get? className with
      | none => (.ok (0, []), w)
      | some document =>
        match value? cast document schema with
        | some (.json d) =>
          (.ok (1, []), w.insert table { t with schemas := t.schemas.insert className (some d) })
        | _ => (.error (refusal noDocument), w)
  | .readSchema table className value column =>
    match w.get? table with
    | none => (.error (refusal noSuchTable), w)
    | some t =>
      match t.schemas.get? className with
      | none => (.ok (0, []), w)
      | some document =>
        match value? cast document value with
        | some v => (.ok (0, [[(column, v.toJson)]]), w)
        | none => (.error (refusal noDocument), w)

end Deed

namespace Catalog

/-- Carry out a text. -/
def carryOut (cast : String → Option Json) (text : String) (w : Catalog) :
    Except Fault (Nat × List Row) × Catalog :=
  match (solidTokens? text).bind Deed.read? with
  | none => (.error (Deed.refusal Deed.unreadable), w)
  | some d => d.act cast w

/-- The engine over a catalog. -/
def engine (cast : String → Option Json) : Engine Catalog Unit where
  connect _ w := (.ok (), w)
  execute text _ w := ((carryOut cast text w).1.map Prod.fst, (), (carryOut cast text w).2)
  query text _ w := ((carryOut cast text w).1.map Prod.snd, (), (carryOut cast text w).2)
  isConnected _ w := (true, w)
  close _ w := (.ok (), w)

theorem steady_engine (cast : String → Option Json) : (engine cast).Steady id where
  connect _ w := ⟨(), w, rfl, rfl⟩
  isConnected _ _ := rfl

end Catalog

/-! ### What commands do -/

/-- The text of a command asks for a deed. -/
structure Command.Does (c : Command) (d : Deed) : Prop where
  isBuilt : c.IsBuilt
  read : Deed.read? c.tokens = some d

section Run

variable {c : Command} {d : Deed}

theorem Command.Does.exists_carryOut (h : c.Does d) (cast : String → Option Json) :
    ∃ text, c.render = .ok text ∧ ∀ w : Catalog, w.carryOut cast text = d.act cast w := by
  obtain ⟨text, htext, htokens⟩ := Command.solidTokens?_render h.isBuilt
  refine ⟨text, htext, fun w => ?_⟩
  rw [Catalog.carryOut, htokens, Option.bind_some, h.read]

theorem Command.Does.execute_catalog (h : c.Does d) (cast : String → Option Json)
    (s : Session Catalog Unit) :
    (s.execute (Catalog.engine cast) c).2 = (d.act cast s.world).1.map Prod.fst ∧
      (s.execute (Catalog.engine cast) c).1.world = (d.act cast s.world).2 := by
  obtain ⟨text, htext, hact⟩ := h.exists_carryOut cast
  obtain ⟨handle, w, rfl, hanswer, hworld⟩ :=
    Session.execute_steady (Catalog.steady_engine cast) htext s
  rw [hanswer, hworld, ← hact]
  exact ⟨rfl, rfl⟩

theorem Command.Does.query_catalog (h : c.Does d) (cast : String → Option Json)
    (s : Session Catalog Unit) :
    (s.query (Catalog.engine cast) c).2 = (d.act cast s.world).1.map Prod.snd ∧
      (s.query (Catalog.engine cast) c).1.world = (d.act cast s.world).2 := by
  obtain ⟨text, htext, hact⟩ := h.exists_carryOut cast
  obtain ⟨handle, w, rfl, hanswer, hworld⟩ :=
    Session.query_steady (Catalog.steady_engine cast) htext s
  rw [hanswer, hworld, ← hact]
  exact ⟨rfl, rfl⟩

namespace Program.Ends

theorem perform (h : c.Does d) (cast : String → Option Json) (w : Catalog) :
    Ends (Catalog.engine cast) (Program.perform c) w ((d.act cast w).1.map fun _ => ())
      (d.act cast w).2 := by
  rintro s rfl
  have ⟨hanswer, hworld⟩ := h.execute_catalog cast s
  simp only [Program.perform, run, hanswer, hworld, and_true]
  cases (d.act cast s.world).1 <;> rfl

theorem executeAs (a : Attempt) (className : String) (h : c.Does d)
    (cast : String → Option Json) (w : Catalog) :
    Ends (Catalog.engine cast) (Program.executeAs a className c) w
      (a.resolve className ((d.act cast w).1.map Prod.fst)) (d.act cast w).2 := by
  obtain ⟨text, htext, hact⟩ := h.exists_carryOut cast
  refine of_meets (Meets.executeAs (Catalog.steady_engine cast) htext ?_)
  rintro handle _ rfl
  rw [id, ← hact]
  exact ⟨rfl, rfl⟩

theorem rows (h : c.Does d) (cast : String → Option Json) (w : Catalog) :
    Ends (Catalog.engine cast) (Program.rows c) w ((d.act cast w).1.map Prod.snd)
      (d.act cast w).2 := by
  rintro s rfl
  have ⟨hanswer, hworld⟩ := h.query_catalog cast s
  simp only [Program.rows, run, hanswer, hworld, and_self]

end Program.Ends

end Run

/-! ### What terms give -/

namespace Command

/-- The tokens of a text that is read as JSON. -/
def castTokens (v : Json) : List Token :=
  [⟨.word, "CAST"⟩, ⟨.mark, "("⟩, (Param.json v).token, ⟨.word, "AS"⟩, ⟨.word, "JSON"⟩,
    ⟨.mark, ")"⟩]

/-- The tokens of a member of the schema document. -/
def memberTokens (path : List String) : List Token :=
  [⟨.word, "JSON_EXTRACT"⟩, ⟨.mark, "("⟩, (Param.ident "schema").token, ⟨.mark, ","⟩,
    (Param.text (jsonPath path)).token, ⟨.mark, ")"⟩]

/-- The tokens of a term for which the empty object stands in. -/
def orObjectTokens (ts : List Token) : List Token :=
  ⟨.word, "COALESCE"⟩ :: ⟨.mark, "("⟩ :: ts ++
    [⟨.mark, ","⟩, ⟨.word, "JSON_OBJECT"⟩, ⟨.mark, "("⟩, ⟨.mark, ")"⟩, ⟨.mark, ")"⟩]

/-- The tokens of the document with a field registered. -/
def registerTokens (field : String) (type : FieldType) : List Token :=
  ⟨.word, "JSON_SET"⟩ :: ⟨.mark, "("⟩ :: orObjectTokens [(Param.ident "schema").token] ++
    ⟨.mark, ","⟩ :: (Param.text (jsonPath ["fields"])).token ::
    ⟨.mark, ","⟩ :: orObjectTokens (memberTokens ["fields"]) ++
    ⟨.mark, ","⟩ :: (Param.text (jsonPath ["fields", field])).token ::
    ⟨.mark, ","⟩ :: castTokens type.toJson ++ [⟨.mark, ")"⟩]

/-- The tokens of the document with a member set. -/
def setMemberTokens (member : String) (v : Json) : List Token :=
  ⟨.word, "JSON_SET"⟩ :: ⟨.mark, "("⟩ :: orObjectTokens [(Param.ident "schema").token] ++
    ⟨.mark, ","⟩ :: (Param.text (jsonPath [member])).token ::
    ⟨.mark, ","⟩ :: castTokens v ++ [⟨.mark, ")"⟩]

end Command

namespace Deed

open Term (Means MeansAll)

variable {cast : String → Option Json} {document : Option Json} {ts : List Token} {v : Value}

/-- The tokens of a term of this value. -/
def Gives (cast : String → Option Json) (document : Option Json) (ts : List Token) (v : Value) :
    Prop :=
  Means (fun m _ => m) (wordValue? cast document) (ts.map asWord) v

theorem Gives.value? (h : Gives cast document ts v) : value? cast document ts = some v := by
  obtain ⟨e, he, hvalue⟩ := h
  rw [Deed.value?, he.isArguments.read?, Option.bind_some, hvalue]

theorem gives_schema :
    Gives cast document [(Param.ident "schema").token] ((document.map Value.json).getD .null) := by
  refine Term.means_word ?_
  change wordValue? cast document (quoteName "schema") = _
  rw [wordValue?, tokens?_quoteName]
  rfl

theorem wordValue?_quoteString (s : String) :
    wordValue? cast document (quoteString s) = some (textValue cast s) := by
  rw [wordValue?, tokens?_quoteString]

theorem gives_path (path : List String) :
    Gives cast document [(Param.text (jsonPath path)).token] (.text (jsonPath path)) := by
  refine Term.means_word ((wordValue?_quoteString _).trans ?_)
  simp [textValue, jsonPath]

/-- The document that a text spells out. -/
theorem gives_cast {o : Object} (h : cast (Json.obj o).compact = some (.obj o)) :
    Gives cast document (Command.castTokens (.obj o)) (.json (.obj o)) := by
  have hsource : textValue cast (Json.obj o).compact = .source (.obj o) := by
    have hbrace : (Json.obj o).compact.toList.head? ≠ some '$' := by
      simp [Json.compact, String.toList_append]
    simp [textValue, hbrace, h]
  have hword : Means (fun m _ => m) (wordValue? cast document)
      [⟨.word, quoteString (Json.obj o).compact⟩] (.source (.obj o)) :=
    Term.means_word ((wordValue?_quoteString _).trans (congrArg some hsource))
  have hcall : Value.call? "CAST" [.json (.obj o)] = some (.json (.obj o)) := rfl
  exact hword.asJson.all.call hcall

/-- A member of the schema document, or `NULL`. -/
theorem gives_member (path : List String) :
    Gives cast document (Command.memberTokens path)
      (((document.bind fun d => d.at? path).map Value.json).getD .null) := by
  have hcall : Value.call? "JSON_EXTRACT"
      ([(document.map Value.json).getD .null] ++ [.text (jsonPath path)]) =
      some (((document.bind fun d => d.at? path).map Value.json).getD .null) := by
    cases document with
    | none => rfl
    | some d => simp [Value.call?, path?_jsonPath]
  exact (MeansAll.append gives_schema.all (gives_path path).all).call hcall

/-- An empty object stands for what is `NULL`. -/
theorem gives_orObject {d : Option Json}
    (h : Gives cast document ts ((d.map Value.json).getD .null)) :
    Gives cast document (Command.orObjectTokens ts) (.json (d.getD (.obj []))) := by
  have hobject : Means (fun m _ => m) (wordValue? cast document)
      [⟨.word, "JSON_OBJECT"⟩, ⟨.mark, "("⟩, ⟨.mark, ")"⟩] (.json (.obj [])) := Term.means_object
  have hcall : Value.call? "COALESCE" ([(d.map Value.json).getD .null] ++ [.json (.obj [])]) =
      some (.json (d.getD (.obj []))) := by
    cases d with
    | none => rfl
    | some d => rfl
  have hgives := (MeansAll.append h.all hobject.all).call hcall
  simpa [Gives, Command.orObjectTokens, asWord] using hgives

/-- A schema document with a type put under the name of a field. -/
def registerIn (field : String) (type : FieldType) (document : Option Json) : Json :=
  .setAt type.toJson ["fields", field]
    (.setAt ((document.bind fun d => d.at? ["fields"]).getD (.obj [])) ["fields"]
      (document.getD (.obj [])))

theorem gives_registerField {field : String} {type : FieldType}
    (h : cast type.toJson.compact = some type.toJson) :
    Gives cast document (Command.registerTokens field type)
      (.json (registerIn field type document)) := by
  have hdocument : Gives cast document (Command.orObjectTokens [(Param.ident "schema").token])
      (.json (document.getD (.obj []))) := gives_orObject gives_schema
  have hfields : Gives cast document (Command.orObjectTokens (Command.memberTokens ["fields"]))
      (.json ((document.bind fun d => d.at? ["fields"]).getD (.obj []))) :=
    gives_orObject (gives_member ["fields"])
  have htype : Gives cast document (Command.castTokens type.toJson) (.json type.toJson) := by
    obtain ⟨o, ho⟩ := type.exists_toJson
    rw [ho] at h ⊢
    exact gives_cast h
  have hall := MeansAll.append hdocument.all (MeansAll.append (gives_path ["fields"]).all
    (MeansAll.append hfields.all (MeansAll.append (gives_path ["fields", field]).all htype.all)))
  have hcall : Value.call? "JSON_SET"
      [.json (document.getD (.obj [])), .text (jsonPath ["fields"]),
        .json ((document.bind fun d => d.at? ["fields"]).getD (.obj [])),
        .text (jsonPath ["fields", field]), .json type.toJson] =
      some (.json (registerIn field type document)) := by
    simp [Value.call?, Value.setPairs?, path?_jsonPath, registerIn, Value.toJson]
  have hset := hall.call hcall
  simpa [Gives, Command.registerTokens, asWord, List.map_append] using hset

theorem gives_setMember {o : Object} (member : String)
    (h : cast (Json.obj o).compact = some (.obj o)) :
    Gives cast document (Command.setMemberTokens member (.obj o))
      (.json (.setAt (.obj o) [member] (document.getD (.obj [])))) := by
  have hdocument : Gives cast document (Command.orObjectTokens [(Param.ident "schema").token])
      (.json (document.getD (.obj []))) := gives_orObject gives_schema
  have hall := MeansAll.append hdocument.all
    (MeansAll.append (gives_path [member]).all (gives_cast h).all)
  have hcall : Value.call? "JSON_SET"
      [.json (document.getD (.obj [])), .text (jsonPath [member]), .json (.obj o)] =
      some (.json (.setAt (.obj o) [member] (document.getD (.obj [])))) := by
    simp [Value.call?, Value.setPairs?, path?_jsonPath, Value.toJson]
  have hset := hall.call hcall
  simpa [Gives, Command.setMemberTokens, asWord, List.map_append] using hset

end Deed

namespace Command

/-- The columns of a registry. -/
def registryColumns : List String := ["className", "schema", "isParseClass"]

/-- The columns of a join table. -/
def joinColumns : List String := ["relatedId", "owningId"]

theorem does_createRegistry (registry : String) :
    (createRegistry registry).Does (.createTable registry registryColumns) :=
  ⟨trivial, rfl⟩

theorem does_createJoinTable (table : String) :
    (createJoinTable table).Does (.createTable table joinColumns) :=
  ⟨trivial, rfl⟩

theorem does_createTable (table : String) (schema : ClassSchema) :
    ∃ columns, (createTable table schema.columns).Does (.createTable table columns) :=
  ⟨_, ⟨schema, rfl⟩, rfl⟩

theorem does_addColumn (table field : String) (type : FieldType) :
    (addColumn table field type).Does (.addColumn table field) :=
  ⟨trivial, rfl⟩

theorem does_register (registry className : String) (schema : Json) :
    (register registry className schema).Does (.register registry className (castTokens schema)) :=
  ⟨trivial, rfl⟩

theorem does_selectField (registry className field : String) :
    (selectField registry className field).Does
      (.readSchema registry className (memberTokens ["fields", field]) "field") :=
  ⟨trivial, rfl⟩

theorem does_registerField (registry className field : String) (type : FieldType) :
    (registerField registry className field type).Does
      (.setSchema registry className (registerTokens field type)) :=
  ⟨trivial, rfl⟩

theorem does_setMember (registry className member : String) (value : Json) :
    (setMember registry className member value).Does
      (.setSchema registry className (setMemberTokens member value)) :=
  ⟨trivial, rfl⟩

end Command

end DocStore
