import DocStore.Document.Key
import DocStore.Number.Decimal

/-!
# Points on the earth

A `GeoPoint` is a latitude and a longitude in degrees.  Inside documents it is a wrapper object;
in SQL it is well-known text, which puts the longitude first and writes coordinates without an
exponent.
-/

namespace DocStore

/-- A point in degrees. -/
structure GeoPoint where
  latitude : Binary64
  longitude : Binary64
  deriving DecidableEq, Repr

namespace GeoPoint

/-- Coordinates have no exponent part and no empty fraction. -/
def layout : Decimal.Layout where
  positional _ := true
  wholeEnd := []
  tie := .up

/-- Any object with numeric coordinates. -/
def ofJson? (v : Json) : Option GeoPoint := do
  let latitude ← (v.get? "latitude").bind Json.asFloat?
  let longitude ← (v.get? "longitude").bind Json.asFloat?
  return ⟨latitude, longitude⟩

/-- A number of degrees that is at most `limit` in either direction. -/
def isWithin (limit : Int) (x : Binary64) : Bool :=
  (Binary64.ofInt (-limit)).le x && x.le (.ofInt limit)

/-- Refuse points outside the globe. -/
def check (p : GeoPoint) : Except Fault Unit :=
  if !isWithin 90 p.latitude then
    .error (.invalidQuery ("GeoPoint latitude out of bounds: " ++ layout.write p.latitude))
  else if !isWithin 180 p.longitude then
    .error (.invalidQuery ("GeoPoint longitude out of bounds: " ++ layout.write p.longitude))
  else .ok ()

/-- Longitude and latitude, as well-known text lists them. -/
def coordinates (p : GeoPoint) : String :=
  layout.write p.longitude ++ " " ++ layout.write p.latitude

/-- The point as well-known text. -/
def wkt (p : GeoPoint) : String := "POINT(" ++ p.coordinates ++ ")"

/-- The polygon with the given corners as well-known text. -/
def polygonWkt (ring : List GeoPoint) : String :=
  "POLYGON((" ++ String.intercalate ", " (ring.map coordinates) ++ "))"

/-- The wrapper object. -/
def toJson (p : GeoPoint) : Json :=
  .obj [("__type", .str "GeoPoint"), ("latitude", .ofFloat p.latitude),
    ("longitude", .ofFloat p.longitude)]

/-- The same point, by the numbers of its coordinates. -/
def same (p q : GeoPoint) : Bool := p.latitude.same q.latitude && p.longitude.same q.longitude

/-- The mean radius of the earth in meters. -/
def earthRadius : Int := 6371000

/-- The length on the ground of an arc given in radians. -/
def meters (radians : Binary64) : Binary64 := radians.mul (.ofInt earthRadius)

end GeoPoint

end DocStore
