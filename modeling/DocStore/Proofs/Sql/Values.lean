import DocStore.Json.Reader
import DocStore.Proofs.Json.Members
import DocStore.Proofs.Sql.Terms
import DocStore.Sql.JsonPath

/-!
# Values of terms

`Term.eval` says what a term gives, with the functions on JSON documents as the database has them:
`JSON_EXTRACT` gives `NULL` for what is missing, `JSON_SET` puts its pairs one after the other and
leaves out those whose parent is no object, and `JSON_REMOVE` leaves out what is missing.  The sum
of two numbers is a parameter.

A path is read back from its text (`path?_jsonPath`), and tokens that mean values can be put
together as the terms are (`Term.Means`).
-/

namespace DocStore

namespace Sql

/-! ### Paths -/

/-- Where the reader of a path stands. -/
inductive PathMode where
  | start
  /-- Behind a member, or behind the dollar sign. -/
  | between
  /-- Behind a point. -/
  | opening
  /-- Inside quotes, with the last character first. -/
  | inside (read : List Char)
  | escaped (read : List Char)

/-- Read the rest of a path behind the given members. -/
def pathFrom (names : List String) : PathMode → List Char → Option (List String)
  | .between, [] => some names
  | .start, c :: cs => if c = '$' then pathFrom names .between cs else none
  | .between, c :: cs => if c = '.' then pathFrom names .opening cs else none
  | .opening, c :: cs => if c = '"' then pathFrom names (.inside []) cs else none
  | .inside read, c :: cs =>
    if c = '"' then pathFrom (names ++ [String.ofList read.reverse]) .between cs
    else if c = '\\' then pathFrom names (.escaped read) cs
    else pathFrom names (.inside (c :: read)) cs
  | .escaped read, c :: cs =>
    if c = '"' ∨ c = '\\' then pathFrom names (.inside (c :: read)) cs else none
  | _, [] => none

/-- The member names of a path. -/
def path? (text : String) : Option (List String) := pathFrom [] .start text.toList

theorem pathFrom_inside (names : List String) (cs rest read : List Char) :
    pathFrom names (.inside read) (cs.flatMap memberChar ++ '"' :: rest) =
      pathFrom (names ++ [String.ofList (read.reverse ++ cs)]) .between rest := by
  induction cs generalizing read with
  | nil => simp [pathFrom]
  | cons c cs ih =>
    by_cases hc : c = '"' ∨ c = '\\'
    · have hstep : pathFrom names (.inside read) ('\\' :: c :: (cs.flatMap memberChar ++ '"' :: rest)) =
          pathFrom names (.inside (c :: read)) (cs.flatMap memberChar ++ '"' :: rest) := by
        simp [pathFrom, hc]
      simpa [memberChar, hc] using hstep.trans (ih (c :: read))
    · obtain ⟨hquote, hslash⟩ := not_or.1 hc
      have hstep : pathFrom names (.inside read) (c :: (cs.flatMap memberChar ++ '"' :: rest)) =
          pathFrom names (.inside (c :: read)) (cs.flatMap memberChar ++ '"' :: rest) := by
        simp [pathFrom, hquote, hslash]
      simpa [memberChar, hc] using hstep.trans (ih (c :: read))

/-- **A path is read back from its text**, whatever characters its names have. -/
theorem path?_jsonPath (names : List String) : path? (jsonPath names) = some names := by
  have hsteps : ∀ rest done, pathFrom done .between (rest.flatMap memberStep) = some (done ++ rest) := by
    intro rest
    induction rest with
    | nil => simp [pathFrom]
    | cons name rest ih =>
      intro done
      have hinside := pathFrom_inside done name.toList (rest.flatMap memberStep) []
      simpa [memberStep, pathFrom, ih] using hinside
  have hstart := hsteps names []
  simpa [path?, jsonPath, pathFrom] using hstart

/-! ### Values -/

/-- A value in the database. -/
inductive Value where
  | null
  /-- A JSON document, or a number. -/
  | json (v : Json)
  | text (s : String)
  /-- A text that spells out a JSON value. -/
  | source (v : Json)
  deriving DecidableEq, Repr

namespace Value

/-- The JSON value that a value becomes inside a document. -/
def toJson : Value → Json
  | .null => .null
  | .json v => v
  | .text s => .str s
  | .source v => .str v.compact

/-- The document of a column, which is empty if there is none. -/
def document : Value → Json
  | .json v => v
  | _ => .obj []

/-- The pairs of `JSON_SET`. -/
def setPairs? (d : Json) : List Value → Option Json
  | [] => some d
  | .text path :: v :: rest => (path? path).bind fun p => setPairs? (Json.setAt v.toJson p d) rest
  | _ => none

/-- The paths of `JSON_REMOVE`. -/
def removePaths? (d : Json) : List Value → Option Json
  | [] => some d
  | .text path :: rest => (path? path).bind fun p => removePaths? (Json.removeAt p d) rest
  | _ => none

/-- What a function gives. -/
def call? : String → List Value → Option Value
  | "COALESCE", vs => some ((vs.find? (· ≠ .null)).getD .null)
  | "JSON_OBJECT", [] => some (.json (.obj []))
  | "JSON_EXTRACT", [.null, _] => some .null
  | "JSON_EXTRACT", [.json d, .text path] =>
    (path? path).map fun p => ((d.at? p).map Value.json).getD .null
  | "JSON_SET", .null :: _ => some .null
  | "JSON_SET", .json d :: pairs => (setPairs? d pairs).map .json
  | "JSON_REMOVE", .null :: _ => some .null
  | "JSON_REMOVE", .json d :: paths => (removePaths? d paths).map .json
  | "CAST", [v] => some v
  | _, _ => none

/-- The JSON value that a text spells out. -/
def asJson? : Value → Option Value
  | .source v => some (.json v)
  | .json v => some (.json v)
  | .null => some .null
  | .text _ => none

/-- The sum of two values. -/
def sum? (plus : Number → Number → Number) : Value → Value → Option Value
  | .json (.num m), .json (.num n) => some (.json (.num (plus m n)))
  | .null, _ | _, .null => some .null
  | _, _ => none

end Value

namespace Term

mutual

/-- The value of a term, where `env` gives the values of words. -/
def eval (plus : Number → Number → Number) (env : String → Option Value) : Term → Option Value
  | .word source => env source
  | .number source => (Json.read? source).map .json
  | .sum left right => do
    let a ← eval plus env left
    let b ← eval plus env right
    Value.sum? plus a b
  | .asJson e => (eval plus env e).bind Value.asJson?
  | .call name args => (evalAll plus env args).bind (Value.call? name)

/-- The values of arguments in order. -/
def evalAll (plus : Number → Number → Number) (env : String → Option Value) :
    List Term → Option (List Value)
  | [] => some []
  | e :: es => do
    let v ← eval plus env e
    let vs ← evalAll plus env es
    return v :: vs

end

variable {plus : Number → Number → Number} {env : String → Option Value} {ts us : List Token}
  {v w : Value} {vs ws : List Value}

theorem evalAll_append {es fs : List Term} (hes : evalAll plus env es = some vs)
    (hfs : evalAll plus env fs = some ws) : evalAll plus env (es ++ fs) = some (vs ++ ws) := by
  induction es generalizing vs with
  | nil =>
    cases hes
    exact hfs
  | cons e es ih =>
    obtain ⟨v, hv, hes⟩ := Option.bind_eq_some_iff.1 hes
    obtain ⟨rest, hrest, hcons⟩ := Option.bind_eq_some_iff.1 hes
    cases hcons
    rw [List.cons_append, evalAll, hv, ih hrest]
    rfl

/-- Tokens of one term without a sign around it, which has this value. -/
def Means (plus : Number → Number → Number) (env : String → Option Value) (ts : List Token)
    (v : Value) : Prop :=
  ∃ e, IsFactor ts e ∧ e.eval plus env = some v

/-- Tokens of arguments with these values. -/
def MeansAll (plus : Number → Number → Number) (env : String → Option Value) (ts : List Token)
    (vs : List Value) : Prop :=
  ∃ es, IsArguments ts es ∧ evalAll plus env es = some vs

theorem means_word {source : String} (h : env source = some v) :
    Means plus env [⟨.word, source⟩] v :=
  ⟨_, isFactor_word source, h⟩

theorem means_zero : Means plus env [⟨.number, "0"⟩] (.json (.num (.int 0))) := by
  refine ⟨_, isFactor_number "0", ?_⟩
  have hzero : Json.read? "0" = some (.num (.int 0)) := by decide +kernel
  rw [eval, hzero]
  rfl

theorem means_object :
    Means plus env [⟨.word, "JSON_OBJECT"⟩, ⟨.mark, "("⟩, ⟨.mark, ")"⟩] (.json (.obj [])) :=
  ⟨_, isFactor_call_nil "JSON_OBJECT", rfl⟩

theorem Means.asJson {d : Json} (h : Means plus env ts (.source d)) :
    Means plus env (ts ++ [⟨.word, "AS"⟩, ⟨.word, "JSON"⟩]) (.json d) := by
  obtain ⟨e, he, hvalue⟩ := h
  refine ⟨_, he.asJson, ?_⟩
  rw [eval, hvalue]
  rfl

theorem Means.all (h : Means plus env ts v) : MeansAll plus env ts [v] := by
  obtain ⟨e, he, hvalue⟩ := h
  refine ⟨_, he.isArguments, ?_⟩
  rw [evalAll, hvalue]
  rfl

theorem Means.sum {m n : Number} (h : Means plus env ts (.json (.num m)))
    (h' : Means plus env us (.json (.num n))) :
    MeansAll plus env (ts ++ ⟨.mark, "+"⟩ :: us) [.json (.num (plus m n))] := by
  obtain ⟨e, he, hvalue⟩ := h
  obtain ⟨f, hf, hvalue'⟩ := h'
  refine ⟨_, he.sum hf, ?_⟩
  rw [evalAll, eval, hvalue, hvalue']
  rfl

theorem MeansAll.append (h : MeansAll plus env ts vs) (h' : MeansAll plus env us ws) :
    MeansAll plus env (ts ++ ⟨.mark, ","⟩ :: us) (vs ++ ws) := by
  obtain ⟨es, hes, hvs⟩ := h
  obtain ⟨fs, hfs, hws⟩ := h'
  exact ⟨_, hes.append hfs, evalAll_append hvs hws⟩

theorem MeansAll.call (h : MeansAll plus env ts vs) {name : String}
    (hv : Value.call? name vs = some v) :
    Means plus env (⟨.word, name⟩ :: ⟨.mark, "("⟩ :: ts ++ [⟨.mark, ")"⟩]) v := by
  obtain ⟨es, hes, hvs⟩ := h
  refine ⟨_, hes.call name, ?_⟩
  rw [eval, hvs]
  exact hv

/-- Templates of arguments with commas between them. -/
theorem meansAll_join {separator : String} (hsep : solid separator = [⟨.mark, ","⟩])
    {g : Nat → Token} {parts : List Template} {vss : List (List Value)} (hne : parts ≠ [])
    (h : List.Forall₂ (fun t vs => MeansAll plus env (Template.solidTokens g t) vs) parts vss) :
    MeansAll plus env (Template.solidTokens g (Template.join separator parts)) vss.flatten :=
  Template.joined (fun ht hu => by simpa [hsep] using ht.append hu) hne h

end Term

end Sql

end DocStore
