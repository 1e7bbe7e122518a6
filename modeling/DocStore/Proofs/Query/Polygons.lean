import DocStore.Proofs.Number.Digits
import DocStore.Proofs.Query.Places

/-!
# Polygons

The polygon of a query is written as well-known text, which is read back as the positions of its
ring (`GeoPoint.ring?_polygonWkt`).

A ring lists the corners in order, and the first one again if the last is another point, so it is
closed.  The number of corners is looked at before that: three corners of which the last is the
first make a ring of three positions, where a ring needs four (`Query.polygon_ring`,
`Query.not_four_positions`).
-/

namespace DocStore

open Sql

namespace GeoPoint

variable {p : GeoPoint} {points ring : List GeoPoint}

/-! ### Well-known text -/

/-- The longitude and the latitude of a position. -/
def position? (cs : List Char) : Option (String × String) :=
  match (cs.splitOn ' ').filter fun part => !part.isEmpty with
  | [longitude, latitude] => some (String.ofList longitude, String.ofList latitude)
  | _ => none

/-- The positions of the ring of a polygon. -/
def ring? (text : String) : Option (List (String × String)) :=
  match text.toList.splitOn '(' with
  | [name, [], inside] =>
    match inside.splitOn ')' with
    | [positions, [], []] =>
      if name = "POLYGON".toList then (positions.splitOn ',').mapM position? else none
    | _ => none
  | _ => none

/-- The longitude and the latitude of a point, as they are written. -/
def position (p : GeoPoint) : String × String :=
  (layout.write p.longitude, layout.write p.latitude)

/-- A character that stands between numbers. -/
def isSeparator (c : Char) : Bool := c == ' ' || c == ',' || c == '(' || c == ')'

theorem isSeparator_of_isDigit {c : Char} (h : c.isDigit = true) : isSeparator c = false := by
  rw [Bool.eq_false_iff]
  intro hseparator
  simp only [isSeparator, Bool.or_eq_true, beq_iff_eq] at hseparator
  rcases hseparator with ((rfl | rfl) | rfl) | rfl <;> cases h

theorem isSeparator_of_isUnsigned {cs : List Char} (h : Decimal.IsUnsigned cs) :
    ∀ c ∈ cs, isSeparator c = false := by
  obtain ⟨first, plain, exponent, rfl, hfirst, hplain, hexponent⟩ := h
  intro c hc
  rcases List.mem_cons.1 hc with rfl | hc
  · exact isSeparator_of_isDigit hfirst
  · rcases List.mem_append.1 hc with hc | hc
    · rcases hplain c hc with hdigit | rfl
      · exact isSeparator_of_isDigit hdigit
      · rfl
    · rcases hexponent with rfl | ⟨e, rfl⟩
      · cases hc
      · simp only [Decimal.exponentPart, List.mem_cons] at hc
        rcases hc with rfl | rfl | hc
        · rfl
        · split <;> rfl
        · exact isSeparator_of_isDigit (Nat.isDigit_of_mem_toDigits (by omega) (by omega) hc)

/-- The text of a coordinate is not empty and has no separator. -/
theorem separate_write (x : Binary64) : (layout.write x).toList.isEmpty = false ∧
    ∀ c ∈ (layout.write x).toList, isSeparator c = false := by
  have hend : Decimal.IsPlain layout.wholeEnd := by simp [Decimal.IsPlain, layout]
  rcases Decimal.isNumberText_write hend x with hunsigned | ⟨unsigned, htext, hunsigned⟩
  · obtain ⟨c, rest, htext, -⟩ := hunsigned.exists_cons
    refine ⟨by rw [htext]; rfl, isSeparator_of_isUnsigned hunsigned⟩
  · rw [htext]
    refine ⟨rfl, fun c hc => ?_⟩
    rcases List.mem_cons.1 hc with rfl | hc
    · rfl
    · exact isSeparator_of_isUnsigned hunsigned c hc

theorem toList_coordinates (p : GeoPoint) : p.coordinates.toList =
    (layout.write p.longitude).toList ++ ' ' :: (layout.write p.latitude).toList := by
  simp [coordinates]

/-- **A position is read back**, also behind a blank. -/
theorem position?_coordinates (p : GeoPoint) :
    position? p.coordinates.toList = some p.position ∧
      position? (' ' :: p.coordinates.toList) = some p.position := by
  have hblank : ∀ x : Binary64, ' ' ∉ (layout.write x).toList := fun x h =>
    absurd ((separate_write x).2 _ h) (by decide)
  have hparts : p.coordinates.toList.splitOn ' ' =
      [(layout.write p.longitude).toList, (layout.write p.latitude).toList] := by
    rw [toList_coordinates, List.splitOn_append_cons_self, List.splitOn_eq_singleton (hblank _),
      List.splitOn_eq_singleton (hblank _)]
    rfl
  have hblanks : (' ' :: p.coordinates.toList).splitOn ' ' =
      [] :: p.coordinates.toList.splitOn ' ' := by
    rw [← List.nil_append (' ' :: p.coordinates.toList), List.splitOn_append_cons_self,
      List.splitOn_nil, List.singleton_append]
  have hlongitude := (separate_write p.longitude).1
  have hlatitude := (separate_write p.latitude).1
  simp [position?, hblanks, hparts, hlongitude, hlatitude, position]

/-- Behind the first, every text goes on behind a blank. -/
theorem intercalate_comma (first : List Char) (rest : List (List Char)) :
    List.intercalate [',', ' '] (first :: rest) =
      List.intercalate [','] (first :: rest.map (' ' :: ·)) := by
  induction rest generalizing first with
  | nil => rfl
  | cons next rest ih =>
    rw [List.intercalate_cons_cons, List.map_cons, List.intercalate_cons_cons, ih]
    cases rest <;> simp [List.intercalate]

/-- No comma and no parenthesis stands in a position. -/
theorem not_mem_coordinates {c : Char} (hc : isSeparator c = true) (hblank : c ≠ ' ')
    (p : GeoPoint) : c ∉ p.coordinates.toList := by
  rw [toList_coordinates]
  intro hmem
  rcases List.mem_append.1 hmem with h | h
  · exact absurd ((separate_write _).2 c h) (by simp [hc])
  · rcases List.mem_cons.1 h with h | h
    · exact hblank h
    · exact absurd ((separate_write _).2 c h) (by simp [hc])

/-- What stands in joined texts stands in one of them or between them. -/
theorem mem_of_mem_intercalate {c : Char} {between : List Char} {parts : List (List Char)}
    (h : c ∈ List.intercalate between parts) : c ∈ between ∨ ∃ part ∈ parts, c ∈ part := by
  induction parts with
  | nil => cases h
  | cons part rest ih =>
    cases rest with
    | nil =>
      rw [List.intercalate_singleton] at h
      exact .inr ⟨part, List.mem_cons_self, h⟩
    | cons next rest =>
      rw [List.intercalate_cons_cons, List.append_assoc] at h
      rcases List.mem_append.1 h with h | h
      · exact .inr ⟨part, List.mem_cons_self, h⟩
      · rcases List.mem_append.1 h with h | h
        · exact .inl h
        · exact (ih h).imp_right fun ⟨p, hp, hmem⟩ => ⟨p, List.mem_cons_of_mem _ hp, hmem⟩

/-- The texts between the commas of a ring; all but the first begin with a blank. -/
def commaParts : List GeoPoint → List (List Char)
  | [] => []
  | first :: rest => first.coordinates.toList :: rest.map fun p => ' ' :: p.coordinates.toList

theorem not_mem_commaParts {c : Char} (hc : isSeparator c = true) (hblank : c ≠ ' ') :
    ∀ part ∈ commaParts ring, c ∉ part := by
  intro part hpart
  cases ring with
  | nil => cases hpart
  | cons first rest =>
    rcases List.mem_cons.1 hpart with rfl | hpart
    · exact not_mem_coordinates hc hblank first
    · obtain ⟨p, -, rfl⟩ := List.mem_map.1 hpart
      exact List.not_mem_cons_of_ne_of_not_mem hblank (not_mem_coordinates hc hblank p)

theorem mapM_position?_commaParts (ring : List GeoPoint) :
    (commaParts ring).mapM position? = some (ring.map position) := by
  have hrest : ∀ points : List GeoPoint,
      (points.map fun p => ' ' :: p.coordinates.toList).mapM position? =
        some (points.map position) := by
    intro points
    induction points with
    | nil => rfl
    | cons p points ih =>
      rw [List.map_cons, List.mapM_cons, (position?_coordinates p).2, ih]
      rfl
  cases ring with
  | nil => rfl
  | cons first rest =>
    rw [commaParts, List.mapM_cons, (position?_coordinates first).1, hrest]
    rfl

theorem toList_polygonWkt (ring : List GeoPoint) :
    (polygonWkt ring).toList = "POLYGON".toList ++ '(' :: ([] ++ '(' ::
      (List.intercalate [','] (commaParts ring) ++ ')' :: ([] ++ ')' :: []))) := by
  have hjoined : (String.intercalate ", " (ring.map coordinates)).toList =
      List.intercalate [','] (commaParts ring) := by
    rw [String.toList_intercalate]
    cases ring with
    | nil => rfl
    | cons first rest =>
      rw [List.map_cons, List.map_cons]
      exact (intercalate_comma _ _).trans (by simp [commaParts, Function.comp_def])
  rw [polygonWkt, String.toList_append, String.toList_append, hjoined]
  simp

/-- **A polygon is read back as the positions of its ring.** -/
theorem ring?_polygonWkt (hne : ring ≠ []) :
    ring? (polygonWkt ring) = some (ring.map position) := by
  have hparts : commaParts ring ≠ [] := by
    cases ring with
    | nil => exact absurd rfl hne
    | cons first rest => exact List.cons_ne_nil _ _
  -- a parenthesis stands neither in the parts nor between them
  have hinside : ∀ c, isSeparator c = true → c ≠ ' ' → c ≠ ',' →
      c ∉ List.intercalate [','] (commaParts ring) := by
    intro c hc hblank hcomma hmem
    rcases mem_of_mem_intercalate hmem with h | ⟨part, hpart, h⟩
    · exact hcomma (List.mem_singleton.1 h)
    · exact not_mem_commaParts hc hblank part hpart h
  have hbehind : '(' ∉ List.intercalate [','] (commaParts ring) ++ ')' :: ([] ++ ')' :: []) := by
    simp [hinside '(' rfl (by decide) (by decide)]
  have hopen : (polygonWkt ring).toList.splitOn '(' = ["POLYGON".toList, [],
      List.intercalate [','] (commaParts ring) ++ ')' :: ([] ++ ')' :: [])] := by
    rw [toList_polygonWkt, List.splitOn_append_cons_self, List.splitOn_append_cons_self,
      List.splitOn_eq_singleton hbehind]
    rfl
  have hclose : (List.intercalate [','] (commaParts ring) ++ ')' :: ([] ++ ')' :: [])).splitOn ')' =
      [List.intercalate [','] (commaParts ring), [], []] := by
    rw [List.splitOn_append_cons_self, List.splitOn_append_cons_self,
      List.splitOn_eq_singleton (hinside ')' rfl (by decide) (by decide))]
    rfl
  have hcomma : (List.intercalate [','] (commaParts ring)).splitOn ',' = commaParts ring :=
    List.splitOn_intercalate ',' (not_mem_commaParts rfl (by decide)) hparts
  rw [ring?, hopen]
  simp only [hclose, if_true]
  rw [hcomma, mapM_position?_commaParts]

end GeoPoint

/-! ### Rings -/

namespace Constraint

variable {vertices : List Json} {points ring : List GeoPoint} {first last : GeoPoint}
  {v operand : Json} {c : Constraint}

/-- A wrapped point on the globe. -/
structure IsVertex (v : Json) (p : GeoPoint) : Prop where
  wrapped : v.typeTag? = some "GeoPoint"
  reads : GeoPoint.ofJson? v = some p
  valid : p.check = .ok ()

/-- The ring of a polygon with the given vertices, which are these points, from the first to the
last. -/
structure IsRing (vertices : List Json) (points : List GeoPoint) (first last : GeoPoint)
    (ring : List GeoPoint) : Prop where
  reads : List.Forall₂ IsVertex vertices points
  head : points.head? = some first
  getLast : points.getLast? = some last
  /-- The first point is repeated if and only if the last is another one. -/
  corners : ring = if first.same last then points else points ++ [first]
  closed : ring.head? = some first ∧ ∃ final, ring.getLast? = some final ∧ first.same final = true
  /-- There are at least four positions, unless three vertices end where they begin. -/
  size : 4 ≤ ring.length ↔ ¬ (vertices.length = 3 ∧ first.same last = true)

theorem isVertex_of_readVertex {p : GeoPoint} (h : readVertex v = .ok p) : IsVertex v p := by
  unfold readVertex at h
  split at h
  · cases h
  · next hwrapped =>
    obtain ⟨point, hpoint, h⟩ := Result.bind_eq_ok.1 h
    obtain ⟨checked, hcheck, h⟩ := Result.bind_eq_ok.1 h
    cases h
    refine ⟨not_not.1 hwrapped, ?_, hcheck⟩
    cases hread : GeoPoint.ofJson? v with
    | none =>
      rw [hread] at hpoint
      cases hpoint
    | some q =>
      rw [hread] at hpoint
      cases hpoint
      rfl

theorem isVertex_of_mapM (h : vertices.mapM readVertex = .ok points) :
    List.Forall₂ IsVertex vertices points := by
  induction vertices generalizing points with
  | nil =>
    cases h
    exact .nil
  | cons v rest ih =>
    obtain ⟨p, others, hp, hothers, rfl⟩ := Result.mapM_cons_eq_ok.1 h
    exact .cons (isVertex_of_readVertex hp) (ih hothers)

/-- A point on the globe is the same as itself: its coordinates are numbers. -/
theorem same_self_of_check {p : GeoPoint} (h : p.check = .ok ()) : p.same p = true := by
  have hnumber : ∀ limit x, GeoPoint.isWithin limit x = true → x.same x = true := by
    intro limit x hwithin
    simp only [GeoPoint.isWithin, Binary64.le, Bool.and_eq_true] at hwithin
    simp [Binary64.same, hwithin.1.1.2]
  unfold GeoPoint.check at h
  split at h
  · cases h
  · next hlatitude =>
    split at h
    · cases h
    · next hlongitude =>
      rw [GeoPoint.same, hnumber 90 _ (by simpa using hlatitude),
        hnumber 180 _ (by simpa using hlongitude)]
      rfl

/-- **The ring of at least three vertices.** -/
theorem isRing_closeRing (hvertices : List.Forall₂ IsVertex vertices points)
    (hsize : 3 ≤ vertices.length) :
    ∃ first last, IsRing vertices points first last (closeRing points) := by
  have hlength := hvertices.length_eq
  obtain ⟨first, hfirst⟩ : ∃ first, points.head? = some first := by
    cases points with
    | nil =>
      rw [hlength] at hsize
      simp at hsize
    | cons first rest => exact ⟨first, rfl⟩
  obtain ⟨last, hlast⟩ : ∃ last, points.getLast? = some last := by
    cases points with
    | nil => cases hfirst
    | cons first rest => exact ⟨_, List.getLast?_eq_some_getLast (List.cons_ne_nil _ _)⟩
  have hcorners : closeRing points = if first.same last then points else points ++ [first] := by
    rw [closeRing, hfirst, hlast]
  refine ⟨first, last, hvertices, hfirst, hlast, hcorners, ?_, ?_⟩
  · rw [hcorners]
    split
    · next hsame => exact ⟨hfirst, last, hlast, hsame⟩
    · have hself : first.same first = true := by
        cases hvertices with
        | nil => cases hfirst
        | cons hvertex _ =>
          cases hfirst
          exact same_self_of_check hvertex.valid
      exact ⟨by rw [List.head?_append, hfirst]; rfl, first, List.getLast?_concat, hself⟩
  · rw [hcorners]
    split
    · next hsame =>
      rw [← hlength, hsame]
      simp
      omega
    · next hother =>
      rw [List.length_append, ← hlength]
      simp [hother]
      omega

theorem isRing_of_readPolygon (h : readPolygon operand = .ok c) :
    ∃ vertices points first last ring, operand.get? "$polygon" = some (.arr vertices) ∧
      c = .inPolygon ring ∧ IsRing vertices points first last ring := by
  unfold readPolygon at h
  split at h
  · next vertices hvertices =>
    split at h
    · cases h
    · next hsize =>
      obtain ⟨points, hpoints, h⟩ := Result.bind_eq_ok.1 h
      cases h
      have hread : operand.get? "$polygon" = some (.arr vertices) := by
        obtain ⟨items, hitems, harray⟩ := Option.bind_eq_some_iff.1 hvertices
        cases items with
        | arr items =>
          cases harray
          exact hitems
        | null | bool | num | str | obj => cases harray
      obtain ⟨first, last, hring⟩ :=
        isRing_closeRing (isVertex_of_mapM hpoints) (Nat.not_lt.1 hsize)
      exact ⟨vertices, points, first, last, _, hread, rfl, hring⟩
  · cases h

end Constraint

namespace Query

/-- **The polygons of a query.**  Wherever an accepted query asks for a polygon, its condition tests
the field against one parameter, which is read back as the positions of a closed ring: those of the
vertices in order, and that of the first again if the last is another point.  It has four positions
at least, unless three vertices end where they begin. -/
theorem polygon_ring {schema : ClassSchema} {v : Json} {q : Query} {front : List Param}
    {w : WhereClause} {field : String} {entries : Object} {operand : Json}
    (hread : ofJson v = .ok q) (hcompile : q.compile schema (front.length + 1) = .ok w)
    (hasked : .operator field entries "$geoWithin" operand ∈ (tree schema.storage v).atoms) :
    ∃ vertices points first last ring, operand.get? "$polygon" = some (.arr vertices) ∧
      Constraint.IsRing vertices points first last ring ∧
      ∃ i n text, sql ["ST_Contains(ST_GeomFromText(", .slot n, "), ",
          (Target.ofName field).text i, ")"] <:+: w.pattern ∧
        Param.StandAt i (Target.ofName field).params (front ++ w.params) ∧
        Param.StandAt n [.text text] (front ++ w.params) ∧
        GeoPoint.ring? text = some (ring.map GeoPoint.position) := by
  obtain ⟨x, test, i, n, ⟨rfl, c, type, hreads, htype, hlower⟩, hcondition, htarget, htest⟩ :=
    exists_test_of_mem_tree hread hcompile hasked
  obtain ⟨read, hpolygon, heq⟩ := Result.map_eq_ok.1 hreads
  obtain rfl := Option.some.inj heq
  obtain ⟨vertices, points, first, last, ring, hvertices, rfl, hring⟩ :=
    Constraint.isRing_of_readPolygon hpolygon
  cases hlower
  have hne : ring ≠ [] := by
    rintro rfl
    cases hring.closed.1
  exact ⟨vertices, points, first, last, ring, hvertices, hring, i, n, _, hcondition, htarget, htest,
    GeoPoint.ring?_polygonWkt hne⟩

/-- Places with a location. -/
def placeSchema : ClassSchema := (ClassSchema.named "Place").field "location" .geoPoint

/-- A wrapped point with a latitude and a longitude in whole degrees. -/
def pointAt (latitude longitude : Int) : Json :=
  .obj [("__type", .str "GeoPoint"), ("latitude", .ofInt latitude), ("longitude", .ofInt longitude)]

/-- A polygon as an operand. -/
def polygonOf (vertices : List Json) : Json := .obj [("$polygon", .arr vertices)]

/-- The corners of an area. -/
def areaCorners : List Json := [pointAt 0 0, pointAt 10 0, pointAt 10 (-20), pointAt 0 (-20)]

/-- An area in a group of queries. -/
def areaQuery : Json :=
  .obj [("$or", .arr [.obj [("location", .null)],
    .obj [("location", .obj [("$geoWithin", polygonOf areaCorners)])]])]

theorem polygon_ring_area :
    ∃ q w points first last ring i n text, ofJson areaQuery = .ok q ∧
      q.compile placeSchema 1 = .ok w ∧
      Constraint.IsRing areaCorners points first last ring ∧ 4 ≤ ring.length ∧
      sql ["ST_Contains(ST_GeomFromText(", .slot n, "), ",
        (Target.ofName "location").text i, ")"] <:+: w.pattern ∧
      Param.StandAt n [.text text] w.params ∧
      GeoPoint.ring? text = some (ring.map GeoPoint.position) := by
  have hcompiles : ((ofJson areaQuery).bind fun q => q.compile placeSchema 1).toBool = true := by
    decide +kernel
  obtain ⟨q, w, hread, hcompile⟩ : ∃ q w, ofJson areaQuery = .ok q ∧
      q.compile placeSchema ([].length + 1) = .ok w := by
    cases h : (ofJson areaQuery).bind fun q => q.compile placeSchema 1 with
    | error fault => simp [h, Except.toBool] at hcompiles
    | ok w =>
      obtain ⟨q, hq, hw⟩ := Result.bind_eq_ok.1 h
      exact ⟨q, w, hq, hw⟩
  have hasked : .operator "location" [("$geoWithin", polygonOf areaCorners)] "$geoWithin"
      (polygonOf areaCorners) ∈ (tree placeSchema.storage areaQuery).atoms :=
    List.mem_cons_of_mem _ List.mem_cons_self
  obtain ⟨vertices, points, first, last, ring, hvertices, hring, i, n, text, hcondition, -, htest,
    htext⟩ := polygon_ring hread hcompile hasked
  obtain rfl : areaCorners = vertices := by
    cases hvertices
    rfl
  exact ⟨q, w, points, first, last, ring, i, n, text, hread, hcompile, hring,
    hring.size.2 fun hfew => absurd hfew.1 (by decide), hcondition, htest, htext⟩

/-- Three vertices that end where they begin. -/
def flatCorners : List Json := [pointAt 20 10, pointAt 30 10, pointAt 20 10]

/-- A query for what is inside them. -/
def flatQuery : Json := .obj [("location", .obj [("$geoWithin", polygonOf flatCorners)])]

/-- Three vertices that end where they begin are accepted, and their ring has three positions. -/
theorem not_four_positions :
    ((ofJson flatQuery).bind fun q => (q.compile placeSchema 1).map WhereClause.params) =
        .ok [.ident "location", .text "POLYGON((10 20, 10 30, 10 20))"] ∧
      GeoPoint.ring? "POLYGON((10 20, 10 30, 10 20))" =
        some [("10", "20"), ("10", "30"), ("10", "20")] ∧
      ¬ ∀ (schema : ClassSchema) (v : Json) (q : Query) (w : WhereClause) (field : String)
        (entries : Object) (operand : Json), ofJson v = .ok q → q.compile schema 1 = .ok w →
          .operator field entries "$geoWithin" operand ∈ (tree schema.storage v).atoms →
            ∃ text ring, .text text ∈ w.params ∧ GeoPoint.ring? text = some ring ∧
              4 ≤ ring.length := by
  have hring : GeoPoint.ring? "POLYGON((10 20, 10 30, 10 20))" =
      some [("10", "20"), ("10", "30"), ("10", "20")] := by decide +kernel
  have hparams : ((ofJson flatQuery).bind fun q =>
      (q.compile placeSchema 1).map WhereClause.params) =
        .ok [.ident "location", .text "POLYGON((10 20, 10 30, 10 20))"] := by decide +kernel
  refine ⟨hparams, hring, fun hall => ?_⟩
  obtain ⟨q, hread, hcompile⟩ := Result.bind_eq_ok.1 hparams
  obtain ⟨w, hcompile, hparams⟩ := Result.map_eq_ok.1 hcompile
  have hasked : .operator "location" [("$geoWithin", polygonOf flatCorners)] "$geoWithin"
      (polygonOf flatCorners) ∈ (tree placeSchema.storage flatQuery).atoms := List.mem_cons_self
  obtain ⟨text, ring, htext, hread', hsize⟩ := hall _ _ _ _ _ _ _ hread hcompile hasked
  rw [hparams] at htext
  rcases List.mem_cons.1 htext with hname | htext
  · cases hname
  · cases List.mem_singleton.1 htext
    rw [hring] at hread'
    cases hread'
    exact absurd hsize (by decide)

end Query

end DocStore
