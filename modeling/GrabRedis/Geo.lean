import GrabRedis.Args

/-!
# The geo replies: `GeoPosition` and `GeoLocations`

`GeoPosition` converts a `GEOPOS` reply member by member, and `GeoLocations` a `GEORADIUS`
reply item by item, whose options `convertToGeoLocation` tells apart by their Go type.
-/

namespace GrabRedis

set_option autoImplicit false

structure GeoPoint where
  lat : Float
  lng : Float

def NewGeoPoint (lat lng : Float) : GeoPoint := ⟨lat, lng⟩

structure GeoLocation where
  name : GoString
  distance : Float
  geoPoint : GeoPoint
  hash : ℤ

def GeoLocation.zero : GeoLocation := ⟨[], 0, ⟨0, 0⟩, 0⟩

def ErrConvertToGeoPointInvalidLength : HelperError :=
  .msg "failed to convert reply to GeoPosition: reply length is not 2"

def ErrConvertToGeoLocationInvalidLength : HelperError :=
  .msg "failed to convert pReply to GeoPosition: pReply length must be 1-4"

section geo

variable (parseFloat : GoString → Nat → Parsed Float)

def convertToGeoGeoPoint (reply : Reply) : Except HelperError GeoPoint :=
  match redisapi.Float64s parseFloat reply none with
  | (_, some e) => .error e
  | (latlng, none) =>
    match latlng with
    | [x0, x1] => .ok (NewGeoPoint x1 x0)
    | _ => .error ErrConvertToGeoPointInvalidLength

/-- `GeoPosition`: each member converted in order; the first error ends the call. -/
def GeoPosition (reply : Reply) (err : Option GoError) : List GeoPoint × Option HelperError :=
  match redisapi.Values reply err with
  | (_, some e) => ([], some e)
  | (values, none) =>
    match values.mapM (convertToGeoGeoPoint parseFloat) with
    | .ok geoPoints => (geoPoints, none)
    | .error e => ([], some e)

/-- One item of a location after its name, by its Go type: an `int64` is the hash, a `string`
the distance, an `[]interface{}` the position; an item of another type is skipped. -/
def geoLocationItem (result : GeoLocation) : Reply → Except HelperError GeoLocation
  | .int x =>
    match redisapi.Int64 (.int x) none with
    | (_, some e) => .error e
    | (hash, none) => .ok { result with hash := hash }
  | .str s =>
    match redisapi.Float64 parseFloat (.str s) none with
    | (_, some e) => .error e
    | (distance, none) => .ok { result with distance := distance }
  | .array vs =>
    (convertToGeoGeoPoint parseFloat (.array vs)).map fun p => { result with geoPoint := p }
  | _ => .ok result

def convertToGeoLocation (reply : Reply) : Except HelperError GeoLocation :=
  match redisapi.Values reply none with
  | (_, some e) => .error e
  | (pReply, none) =>
    match pReply with
    | [] => .error ErrConvertToGeoLocationInvalidLength
    | item :: items =>
      if items.length > 3 then .error ErrConvertToGeoLocationInvalidLength
      else
        match redisapi.String item none with
        | (_, some e) => .error e
        | (name, none) =>
          items.foldlM (geoLocationItem parseFloat) { GeoLocation.zero with name := name }

/-- `GeoLocations`: each item converted in order; the first error ends the call. -/
def GeoLocations (reply : Reply) (err : Option GoError) : List GeoLocation × Option HelperError :=
  match redisapi.Values reply err with
  | (_, some e) => ([], some e)
  | (values, none) =>
    match values.mapM (convertToGeoLocation parseFloat) with
    | .ok list => (list, none)
    | .error e => ([], some e)

/-! ## `GEOPOS` -/

/-- A member of a `GEOPOS` reply as go-redis hands it over: the two coordinates as strings,
longitude first, or `nil` for a member not in the set. -/
def geoposMember : Option (GoString × GoString) → Reply
  | some (lng, lat) => .array [.str lng, .str lat]
  | none => .nil

def geoposPoint (m : GoString × GoString) : GeoPoint :=
  NewGeoPoint (parseFloat m.2 64).1 (parseFloat m.1 64).1

def Parses (texts : List GoString) : Prop := ∀ s ∈ texts, (parseFloat s 64).2 = none

theorem convertToGeoGeoPoint_pair {lng lat : GoString} (h : Parses parseFloat [lng, lat]) :
    convertToGeoGeoPoint parseFloat (.array [.str lng, .str lat]) =
      .ok (geoposPoint parseFloat (lng, lat)) := by
  simp [convertToGeoGeoPoint, redisapi.Float64s, redisapi.Values, float64sLoop, redisapi.Float64,
    h lng (List.mem_cons_self _ _), h lat (by simp), Except.map, geoposPoint]

theorem mapM_geoposMember (ms : List (Option (GoString × GoString)))
    (hparse : ∀ m ∈ ms, ∀ p ∈ m, Parses parseFloat [p.1, p.2]) :
    (ms.map geoposMember).mapM (convertToGeoGeoPoint parseFloat) =
      if ∀ m ∈ ms, m.isSome then .ok (ms.filterMap (·.map (geoposPoint parseFloat)))
      else .error .noData := by
  induction ms with
  | nil => rfl
  | cons m ms ih =>
    rw [List.map_cons, List.mapM_cons, ih fun m hm => hparse m (List.mem_cons_of_mem _ hm)]
    cases m with
    | none =>
      have hnone : ¬∀ m ∈ none :: ms, m.isSome := fun hall => by
        simpa using hall none (List.mem_cons_self _ _)
      rw [if_neg hnone]; rfl
    | some p =>
      obtain ⟨lng, lat⟩ := p
      rw [geoposMember,
        convertToGeoGeoPoint_pair parseFloat (hparse _ (List.mem_cons_self _ _) _ rfl)]
      by_cases hall : ∀ m ∈ ms, m.isSome
      · rw [if_pos hall, if_pos (by simpa using hall)]; rfl
      · rw [if_neg hall, if_neg (by simpa using hall)]; rfl

/-- `GeoPosition` on a `GEOPOS` reply whose positions parse: the members' points in order, each
with the latitude read from the second text and the longitude from the first; but a single
member not in the set fails the whole call with `ErrNoData` and no points. -/
theorem GeoPosition_members (ms : List (Option (GoString × GoString)))
    (hparse : ∀ m ∈ ms, ∀ p ∈ m, Parses parseFloat [p.1, p.2]) :
    GeoPosition parseFloat (.array (ms.map geoposMember)) none =
      if ∀ m ∈ ms, m.isSome then (ms.filterMap (·.map (geoposPoint parseFloat)), none)
      else ([], some .noData) := by
  simp only [GeoPosition, redisapi.Values, mapM_geoposMember parseFloat ms hparse]
  split_ifs <;> rfl

/-! ## `GEORADIUS` -/

/-- An item of a `GEORADIUS` reply: the member's name and the options Redis added, the
distance, the hash and the position. -/
structure GeoradiusItem where
  name : GoString
  dist : Option GoString
  hash : Option Int64
  pos : Option (GoString × GoString)

/-- The item as Redis writes it and go-redis hands it over: the name, then the options asked
for in the order distance, hash, position. -/
def GeoradiusItem.reply (i : GeoradiusItem) : Reply :=
  .array (.str i.name :: (i.dist.map .str).toList ++ (i.hash.map .int).toList ++
    (i.pos.map fun p => geoposMember (some p)).toList)

/-- The location the item stands for: each option in its field, one not asked for zero. -/
def GeoradiusItem.location (i : GeoradiusItem) : GeoLocation :=
  ⟨i.name, (i.dist.map fun d => (parseFloat d 64).1).getD 0,
    (i.pos.map (geoposPoint parseFloat)).getD ⟨0, 0⟩, (i.hash.map (·.1)).getD 0⟩

def GeoradiusItem.Parses (i : GeoradiusItem) : Prop :=
  (∀ d ∈ i.dist, GrabRedis.Parses parseFloat [d]) ∧
    ∀ p ∈ i.pos, GrabRedis.Parses parseFloat [p.1, p.2]

theorem convertToGeoLocation_item {i : GeoradiusItem} (h : i.Parses parseFloat) :
    convertToGeoLocation parseFloat i.reply = .ok (i.location parseFloat) := by
  obtain ⟨name, dist, hash, pos⟩ := i
  obtain ⟨hdist, hpos⟩ := h
  rcases dist with _ | d <;> rcases hash with _ | x <;> rcases pos with _ | ⟨lng, lat⟩ <;>
    simp_all [GrabRedis.Parses, convertToGeoLocation, GeoradiusItem.reply,
      GeoradiusItem.location, redisapi.Values, redisapi.String, geoLocationItem, redisapi.Float64,
      redisapi.Int64, GeoLocation.zero, geoposMember, convertToGeoGeoPoint_pair, Except.map, bind,
      Except.bind, pure, Except.pure]

/-- `GeoLocations` on a `GEORADIUS` reply, whatever options were asked for: one location per
item, in order, with the name, and the distance, position and hash in their fields when Redis
added them, zero when not. -/
theorem GeoLocations_items (items : List GeoradiusItem)
    (h : ∀ i ∈ items, i.Parses parseFloat) :
    GeoLocations parseFloat (.array (items.map (·.reply))) none =
      (items.map (·.location parseFloat), none) := by
  have hmap : (items.map (·.reply)).mapM (convertToGeoLocation parseFloat) =
      .ok (items.map (·.location parseFloat)) := by
    induction items with
    | nil => rfl
    | cons i items ih =>
      rw [List.map_cons, List.mapM_cons, convertToGeoLocation_item parseFloat
        (h i (List.mem_cons_self _ _)), ih fun j hj => h j (List.mem_cons_of_mem _ hj)]
      rfl
  simp only [GeoLocations, redisapi.Values, hmap]

end geo

theorem GeoPosition_members_missing :
    let ms : List (Option (GoString × GoString)) :=
      [some (.ofString "13.361389", .ofString "38.115556"), none]
    (∀ m ∈ ms, ∀ p ∈ m, Parses (fun _ _ => (0, none)) [p.1, p.2]) ∧
      GeoPosition (fun _ _ => (0, none)) (.array (ms.map geoposMember)) none =
        ([], some .noData) := by
  intro ms
  have h : ∀ m ∈ ms, ∀ p ∈ m, Parses (fun _ _ => (0, none)) [p.1, p.2] :=
    fun _ _ _ _ _ _ => rfl
  exact ⟨h, (GeoPosition_members _ ms h).trans (if_neg fun hall => by
    simpa using hall none (by simp [ms]))⟩

theorem GeoLocations_items_mixed :
    let items : List GeoradiusItem :=
      [⟨.ofString "Palermo", some (.ofString "190.4424"), none, none⟩,
        ⟨.ofString "Catania", none, some ⟨3479447370796909, by decide⟩,
          some (.ofString "15.087267", .ofString "37.502668")⟩]
    (∀ i ∈ items, i.Parses (fun _ _ => (0, none))) ∧
      GeoLocations (fun _ _ => (0, none)) (.array (items.map (·.reply))) none =
        (items.map (·.location (fun _ _ => (0, none))), none) := by
  intro items
  have h : ∀ i ∈ items, i.Parses (fun _ _ => (0, none)) :=
    fun _ _ => ⟨fun _ _ _ _ => rfl, fun _ _ _ _ => rfl⟩
  exact ⟨h, GeoLocations_items _ items h⟩

end GrabRedis
