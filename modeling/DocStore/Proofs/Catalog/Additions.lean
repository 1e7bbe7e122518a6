import DocStore.Proofs.Catalog.Fields

/-!
# Adding fields

Adding a field to a class makes sure of a place for its values, looks its type up in the registry,
and registers it if there is none (`Catalog.ends_addField`).  So it succeeds if and only if the
registry has no type for the field or the same one, whatever columns and join tables there are; and
over any course of additions a registered type stays as it is (`Catalog.addAll_keepsTypes`).
-/

namespace DocStore

open Program (Ends)

namespace Catalog

variable {w w' : Catalog} {registry className field : String} {type : FieldType}
  {cast : String → Option Json}

/-- What adding a field does once the type that is registered has been looked up. -/
def settleType (registry className field : String) (type : FieldType) (found : Option FieldType) :
    Program Unit :=
  match found with
  | none => Program.perform (.registerField registry className field type)
  | some registered =>
    if registered = type then .done (.ok ()) else Program.fail (.fieldAlreadyExists className field)

/-- The lookup of a field gives its registered type. -/
theorem ends_selectField (cast : String → Option Json) (h : w.Keeps registry className)
    (field : String) :
    ∃ row, Ends (engine cast) (Program.rows (.selectField registry className field)) w
        (.ok [row]) w ∧
      Store.typeOfRow (some row) = .ok (w.registered? registry className field) := by
  obtain ⟨t, ht⟩ := h.exists_registry
  obtain ⟨d, hd, hschema⟩ := h.row
  have hrow : t.schemas.get? className = some d := by simpa [document?, ht] using hd
  have hvalue := (Deed.gives_member (["fields", field]) : Deed.Gives cast d _ _).value?
  have hends := Ends.rows (Command.does_selectField registry className field) cast w
  simp only [Deed.act, ht, hrow, hvalue, Except.map] at hends
  refine ⟨_, hends, ?_⟩
  rw [registered?, hd, Option.bind_some]
  exact hschema.typeOfRow_field field "field"

/-- A class without a row has no registered types. -/
theorem ends_selectField_of_none (cast : String → Option Json)
    (hregistry : ∃ t, w.get? registry = some t) (hnone : w.document? registry className = none)
    (field : String) :
    Ends (engine cast) (Program.rows (.selectField registry className field)) w (.ok []) w := by
  obtain ⟨t, ht⟩ := hregistry
  have hrow : t.schemas.get? className = none := by simpa [document?, ht] using hnone
  have hends := Ends.rows (Command.does_selectField registry className field) cast w
  simp only [Deed.act, ht, hrow, Except.map] at hends
  exact hends

/-- **Adding a field** makes sure of its place, looks its type up and goes on with what it finds. -/
theorem ends_addField {place : Catalog} {n : Option Nat} {rows : List Row}
    {found : Option FieldType} {result : Except Fault Unit}
    (hfield : Names.checkField field = .ok ())
    (hplace : Ends (engine cast) (Program.executeAs .addField className
      (.addField className field type)) w (.ok n) place)
    (hlookup : Ends (engine cast) (Program.rows (.selectField registry className field)) place
      (.ok rows) place)
    (hfound : Store.typeOfRow rows.head? = .ok found)
    (hsettle : Ends (engine cast) (settleType registry className field type found) place result
      w') :
    Ends (engine cast) (Store.addField registry className field type) w result w' := by
  have hcheck : Ends (engine cast) (.done (Names.checkField field)) w (.ok ()) w := by
    rw [hfield]
    exact .done _
  have hread : Ends (engine cast) (.done (Store.typeOfRow rows.head?)) place (.ok found) place := by
    rw [hfound]
    exact .done _
  exact .report (hcheck.bind_ok (hplace.bind_ok (hlookup.bind_ok (hread.bind_ok hsettle))))

/-- The place of a field of a class that has a table. -/
theorem ends_place (cast : String → Option Json) (h : ∃ t, w.get? className = some t)
    (field : String) (type : FieldType) :
    ∃ n, Ends (engine cast) (Program.executeAs .addField className
      (.addField className field type)) w (.ok n) (w.withPlace className field type) := by
  obtain ⟨n, hn⟩ := resolve_placeDeed cast h field type
  have hends := Ends.executeAs .addField className (does_addField className field type) cast w
  rw [hn, act_placeDeed] at hends
  exact ⟨n, hends⟩

/-- An addition to a class of the registry goes on with the type that is registered. -/
theorem ends_addField_of_keeps {result : Except Fault Unit}
    (hfield : Names.checkField field = .ok ()) (h : w.Keeps registry className)
    (hsettle : Ends (engine cast)
      (settleType registry className field type (w.registered? registry className field))
      (w.withPlace className field type) result w') :
    Ends (engine cast) (Store.addField registry className field type) w result w' := by
  obtain ⟨n, hplace⟩ := ends_place cast h.table field type
  -- the lookup reads the registry, which is as before
  obtain ⟨row, hlookup, hfound⟩ := ends_selectField cast (h.withPlace field type) field
  have hregistered : (w.withPlace className field type).registered? registry className field =
      w.registered? registry className field := by
    rw [registered?, registered?, document?_withPlace h.exists_registry]
  rw [hregistered] at hfound
  exact ends_addField hfield hplace hlookup hfound hsettle

/-- A field without a registered type gets one. -/
theorem ends_addField_of_none (hfield : Names.checkField field = .ok ())
    (hcast : cast type.toJson.compact = some type.toJson) (h : w.Keeps registry className)
    (hnone : w.registered? registry className field = none) :
    Ends (engine cast) (Store.addField registry className field type) w (.ok ())
      ((w.withPlace className field type).withType registry className field type) := by
  refine ends_addField_of_keeps hfield h ?_
  have hperform := Ends.perform (Command.does_registerField registry className field type) cast
    (w.withPlace className field type)
  obtain ⟨d, hd, -⟩ := (h.withPlace field type).row
  rw [act_registerField hd hcast] at hperform
  rw [hnone]
  exact hperform

/-- A field with a registered type keeps it. -/
theorem ends_addField_of_some {registered : FieldType} (cast : String → Option Json)
    (hfield : Names.checkField field = .ok ()) (h : w.Keeps registry className)
    (hsome : w.registered? registry className field = some registered) (type : FieldType) :
    Ends (engine cast) (Store.addField registry className field type) w
      (if registered = type then .ok () else .error (.fieldAlreadyExists className field))
      (w.withPlace className field type) := by
  refine ends_addField_of_keeps hfield h ?_
  rw [hsome, settleType]
  split
  · exact .done _
  · exact .done _

/-! ### Courses of additions -/

/-- A field name that is accepted, and a type that the database reads back. -/
def IsAddition (cast : String → Option Json) (c : String × FieldType) : Prop :=
  Names.checkField c.1 = .ok () ∧ cast c.2.toJson.compact = some c.2.toJson

/-- An addition over a session. -/
def add (cast : String → Option Json) (registry className : String) (s : Session Catalog Unit)
    (c : String × FieldType) : Session Catalog Unit × Except Fault Unit :=
  (Store.addField registry className c.1 c.2).run (engine cast) s

/-- The session behind additions, whatever their results. -/
def addAll (cast : String → Option Json) (registry className : String) (s : Session Catalog Unit)
    (calls : List (String × FieldType)) : Session Catalog Unit :=
  calls.foldl (fun s c => (add cast registry className s c).1) s

variable {s : Session Catalog Unit} {c : String × FieldType}

theorem addAll_append (s : Session Catalog Unit) (calls more : List (String × FieldType)) :
    addAll cast registry className s (calls ++ more) =
      addAll cast registry className (addAll cast registry className s calls) more :=
  List.foldl_append

/-- How an addition to a class ends, and what it leaves. -/
structure Adds (w : Catalog) (registry className : String) (c : String × FieldType)
    (result : Except Fault Unit) (w' : Catalog) : Prop where
  keeps : w'.Keeps registry className
  /-- What is registered stays. -/
  stays : ∀ f t, w.registered? registry className f = some t →
    w'.registered? registry className f = some t
  ok_iff : result = .ok () ↔ w.registered? registry className c.1 = none ∨
    w.registered? registry className c.1 = some c.2
  ok_or : result = .ok () ∨ result = .error (.fieldAlreadyExists className c.1)
  registered : result = .ok () → w'.registered? registry className c.1 = some c.2
  hasPlace : result = .ok () → w'.HasPlace className c.1 c.2

/-- **One addition** succeeds if and only if no other type is registered, and keeps what is. -/
theorem adds_add (hc : IsAddition cast c) (h : s.world.Keeps registry className) :
    Adds s.world registry className c (add cast registry className s c).2
      (add cast registry className s c).1.world := by
  have hplaced : ∀ f, (s.world.withPlace className c.1 c.2).registered? registry className f =
      s.world.registered? registry className f := by
    intro f
    rw [registered?, registered?, document?_withPlace h.exists_registry]
  have hplace := h.withPlace c.1 c.2
  unfold add
  cases hregistered : s.world.registered? registry className c.1 with
  | none =>
    obtain ⟨hresult, hworld⟩ := ends_addField_of_none hc.1 hc.2 h hregistered s rfl
    rw [hresult, hworld]
    refine ⟨hplace.withType _ _, fun f t hf => ?_, by simp [hregistered], .inl rfl, fun _ => ?_,
      fun _ => (hasPlace_withPlace h.table).withType _ _ _ _⟩
    · have hne : f ≠ c.1 := by
        rintro rfl
        rw [hregistered] at hf
        cases hf
      rw [registered?_withType hplace, if_neg hne, hplaced, hf]
    · rw [registered?_withType hplace, if_pos rfl]
  | some registered =>
    obtain ⟨hresult, hworld⟩ := ends_addField_of_some cast hc.1 h hregistered c.2 s rfl
    rw [hresult, hworld]
    have hok : (if registered = c.2 then Except.ok ()
        else .error (.fieldAlreadyExists className c.1)) = (.ok () : Except Fault Unit) ↔
        registered = c.2 := by
      by_cases htype : registered = c.2 <;> simp [htype]
    refine ⟨hplace, fun f t hf => by rw [hplaced, hf], by simp [hregistered, hok], ?_,
      fun htype => by rw [hplaced, hregistered, hok.1 htype],
      fun _ => hasPlace_withPlace h.table⟩
    by_cases htype : registered = c.2 <;> simp [htype]

/-- What additions preserve. -/
theorem addAll_preserves (h : s.world.Keeps registry className) {calls : List (String × FieldType)}
    (hcalls : ∀ c ∈ calls, IsAddition cast c) :
    (addAll cast registry className s calls).world.Keeps registry className ∧
      ∀ f t, s.world.registered? registry className f = some t →
        (addAll cast registry className s calls).world.registered? registry className f =
          some t := by
  induction calls generalizing s with
  | nil => exact ⟨h, fun f t hf => hf⟩
  | cons c calls ih =>
    have hfirst := adds_add (hcalls c List.mem_cons_self) h
    obtain ⟨hkeeps, hstays⟩ := ih hfirst.keeps fun d hd => hcalls d (List.mem_cons_of_mem _ hd)
    exact ⟨hkeeps, fun f t hf => hstays f t (hfirst.stays f t hf)⟩

/-- **Registered types stay, and decide what can be added.**  Over every course of additions to a
class, a type that is registered at one point is registered at every later one.  At any point an
addition succeeds if and only if its field has no type or the same one, and reports that the field
exists otherwise; behind one that succeeds the field has its type, and the same addition succeeds
again and changes neither tables nor registry. -/
theorem addAll_keepsTypes (cast : String → Option Json) (registry className : String)
    (s : Session Catalog Unit) (h : s.world.Keeps registry className)
    (calls more : List (String × FieldType)) (c : String × FieldType)
    (hcalls : ∀ d ∈ c :: calls ++ more, IsAddition cast d) :
    let before := addAll cast registry className s calls
    let behind := add cast registry className before c
    let again := add cast registry className behind.1 c
    (∀ f t, before.world.registered? registry className f = some t →
      (addAll cast registry className s (calls ++ more)).world.registered? registry className f =
        some t) ∧
    (behind.2 = .ok () ↔ before.world.registered? registry className c.1 = none ∨
      before.world.registered? registry className c.1 = some c.2) ∧
    (behind.2 = .ok () ∨ behind.2 = .error (.fieldAlreadyExists className c.1)) ∧
    (behind.2 = .ok () →
      behind.1.world.registered? registry className c.1 = some c.2 ∧
        again.2 = .ok () ∧ again.1.world = behind.1.world) := by
  simp only [List.cons_append, List.forall_mem_cons, List.forall_mem_append] at hcalls
  obtain ⟨hc, hcalls, hmore⟩ := hcalls
  intro before behind again
  obtain ⟨hkeeps, -⟩ := addAll_preserves h hcalls
  have hadds := adds_add hc hkeeps
  refine ⟨?_, hadds.ok_iff, hadds.ok_or, fun hok => ⟨hadds.registered hok, ?_⟩⟩
  · rw [addAll_append]
    exact (addAll_preserves hkeeps hmore).2
  · -- the field has its place and its type, so nothing is left to do
    have hends := ends_addField_of_some cast hc.1 hadds.keeps (hadds.registered hok) c.2
    rw [if_pos rfl, withPlace_eq_self (hadds.hasPlace hok)] at hends
    exact hends behind.1 rfl

/-- A registry that knows the fans of widgets and not their names, while the names have a column and
the fans have no join table. -/
def outOfStep : Catalog :=
  .ofList [("Widget", ⟨["objectId", "name"], .empty⟩),
    ("_SCHEMA", ⟨Command.registryColumns, .ofList [("Widget", some (.obj [("fields",
      .obj [("fans", (FieldType.relation "_User").toJson)])]))]⟩)]

theorem addAll_keepsTypes_outOfStep :
    outOfStep.Keeps "_SCHEMA" "Widget" ∧
      (∀ d ∈ [("name", FieldType.number), ("name", .string), ("tags", .arrayOf .string)],
        IsAddition Json.read? d) ∧
      let before := addAll Json.read? "_SCHEMA" "Widget" (.opened "" () outOfStep)
        [("name", .string)]
      let behind := add Json.read? "_SCHEMA" "Widget" before ("name", .number)
      (behind.2 = .ok () ↔ before.world.registered? "_SCHEMA" "Widget" "name" = none ∨
        before.world.registered? "_SCHEMA" "Widget" "name" = some .number) ∧
      (behind.2 = .ok () ∨ behind.2 = .error (.fieldAlreadyExists "Widget" "name")) := by
  have hkeeps : outOfStep.Keeps "_SCHEMA" "Widget" := by
    refine ⟨⟨_, rfl⟩, _, rfl, ⟨⟨_, rfl⟩, _, rfl, fun name v hv => ?_⟩⟩
    simp only [Object.get?, List.lookup_cons] at hv
    split at hv
    · exact ⟨.relation "_User", (Option.some.inj hv).symm⟩
    · cases hv
  have hadditions : ∀ d ∈ [("name", FieldType.number), ("name", .string),
      ("tags", .arrayOf .string)], IsAddition Json.read? d := by
    simp only [List.forall_mem_cons, List.not_mem_nil, false_implies, implies_true, and_true]
    exact ⟨⟨rfl, by decide +kernel⟩, ⟨rfl, by decide +kernel⟩, rfl, by decide +kernel⟩
  have htypes := addAll_keepsTypes Json.read? "_SCHEMA" "Widget" (.opened "" () outOfStep) hkeeps
    [("name", .string)] [("tags", .arrayOf .string)] ("name", .number) hadditions
  exact ⟨hkeeps, hadditions, htypes.2.1, htypes.2.2.1⟩

end Catalog

end DocStore
