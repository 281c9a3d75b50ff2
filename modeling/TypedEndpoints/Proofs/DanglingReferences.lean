import TypedEndpoints.Schema.Problems
/-!
Dangling references are found, each of them once. A spot is a place of a document where a reference can
stand, told by positions alone; `Metadata.Stands` says what stands where and knows nothing of how the
check goes through a document. `Metadata.DanglingAt` is what the check should find at a spot.

* `TypeRef.mem_names_iff`: the names of a reference are those it mentions, at any depth of arrays;
* `Metadata.mem_spots`, `Metadata.spots_pairwise`: the traversal of the check comes to every spot of a
  document, in document order;
* `dangling_told`: the list of the check tells each dangling reference once, in that order, and nothing
  else.
-/
set_option autoImplicit false
namespace TypedEndpoints

/-! ## What a reference mentions -/

/-- The reference mentions the declared type of this name, inside however many arrays. -/
inductive TypeRef.Mentions : TypeRef → Text → Prop where
  | named (name : Text) : Mentions (.named name) name
  | array {item : TypeRef} {name : Text} (inside : Mentions item name) : Mentions (.array item) name

theorem TypeRef.mem_names_iff (reference : TypeRef) (name : Text) :
    name ∈ reference.names ↔ reference.Mentions name := by
  induction reference with
  | primitive p => exact ⟨fun member => (List.not_mem_nil member).elim, fun mentions => nomatch mentions⟩
  | named known =>
      constructor
      · intro member
        obtain rfl := List.mem_singleton.mp member
        exact .named name
      · intro mentions
        cases mentions
        exact List.mem_singleton_self name
  | array item ih =>
      constructor
      · intro member
        exact .array (ih.mp member)
      · intro mentions
        cases mentions with
        | array inside => exact ih.mpr inside
  | unresolved raw => exact ⟨fun member => (List.not_mem_nil member).elim, fun mentions => nomatch mentions⟩

/-- An array has one item type, so a reference mentions one type at most. -/
theorem TypeRef.length_names_le (reference : TypeRef) : reference.names.length ≤ 1 := by
  induction reference with
  | primitive p => simp [names]
  | named name => simp [names]
  | array item ih => exact ih
  | unresolved raw => simp [names]

/-! ## Spots -/

/-- Where a document can hold a reference: the field of a data type, or a parameter, the body or the
response of an interface, each told by its position. -/
inductive Spot where
  | field (dataType field : Nat)
  | param (interface param : Nat)
  | body (interface : Nat)
  | response (interface : Nat)
  deriving DecidableEq

/-- The place of a spot in a document. All data types come before the interfaces; an interface has its
parameters, then its body, then its response. -/
def Spot.rank : Spot → List Nat
  | field i j => [0, i, j]
  | param i j => [1, i, 0, j]
  | body i => [1, i, 1]
  | response i => [1, i, 2]

/-- Document order. -/
def Spot.Before (first second : Spot) : Prop := first.rank < second.rank

namespace Metadata

variable (metadata : Metadata)

/-- What stands at a spot of a document: a reference, and how a message tells the place. -/
inductive Stands : Spot → Site → Prop where
  | field {i j : Nat} {dataType : DataType} {fields : List Field} {field : Field}
      (known : metadata.dataTypes[i]? = some dataType) (object : dataType.shape = .object fields)
      (there : fields[j]? = some field) :
      Stands (.field i j) ⟨dataType.name ++ "." ++ field.name, field.type⟩
  | param {i j : Nat} {api : HttpInterface} {param : Field}
      (known : metadata.httpInterfaces[i]? = some api) (there : api.urlParams[j]? = some param) :
      Stands (.param i j) ⟨api.name ++ " url param " ++ Text.shown param.name, param.type⟩
  | body {i : Nat} {api : HttpInterface} {type : TypeRef}
      (known : metadata.httpInterfaces[i]? = some api) (there : api.bodyType = some type) :
      Stands (.body i) ⟨api.name ++ " body", type⟩
  | response {i : Nat} {api : HttpInterface} {type : TypeRef}
      (known : metadata.httpInterfaces[i]? = some api) (there : api.responseType = some type) :
      Stands (.response i) ⟨api.name ++ " response", type⟩

/-- At this spot stands a reference to a type that no data type declares, and this entry tells it. -/
def DanglingAt (spot : Spot) (entry : Text) : Prop :=
  ∃ site name, metadata.Stands spot site ∧ site.reference.Mentions name ∧
    (∀ dataType ∈ metadata.dataTypes, dataType.name ≠ name) ∧
    entry = site.place ++ " references undefined type " ++ Text.shown name

/-- The entries tell every dangling reference once, in document order, and nothing else. -/
def ToldInOrder (entries : List Text) : Prop :=
  ∃ told : List (Spot × Text), told.map Prod.snd = entries ∧
    told.Pairwise (fun first second => first.1.Before second.1) ∧
    ∀ spot entry, (spot, entry) ∈ told ↔ metadata.DanglingAt spot entry

end Metadata

/-! ## Lists of lists with positions -/

section Positions

variable {α β γ : Type} {R : β → β → Prop} {pieces : Nat → α → List β} {items : List α}

theorem mem_flatten_mapIdx (x : β) :
    x ∈ (items.mapIdx pieces).flatten ↔ ∃ i item, items[i]? = some item ∧ x ∈ pieces i item := by
  rw [List.mem_flatten]
  constructor
  · rintro ⟨list, member, inside⟩
    obtain ⟨i, bound, rfl⟩ := List.mem_mapIdx.mp member
    exact ⟨i, items[i], List.getElem?_eq_getElem bound, inside⟩
  · rintro ⟨i, item, found, inside⟩
    obtain ⟨bound, rfl⟩ := List.getElem?_eq_some_iff.mp found
    exact ⟨_, List.mem_mapIdx.mpr ⟨i, bound, rfl⟩, inside⟩

theorem pairwise_flatten_mapIdx (within : ∀ i item, (pieces i item).Pairwise R)
    (across : ∀ i j, i < j → ∀ first second, ∀ x ∈ pieces i first, ∀ y ∈ pieces j second, R x y) :
    (items.mapIdx pieces).flatten.Pairwise R := by
  rw [List.pairwise_flatten, List.pairwise_iff_getElem]
  constructor
  · intro list member
    obtain ⟨i, bound, rfl⟩ := List.mem_mapIdx.mp member
    exact within i _
  · intro i j _ _ earlier
    rw [List.getElem_mapIdx, List.getElem_mapIdx]
    exact across i j earlier _ _

theorem pairwise_mapIdx {piece : Nat → α → β}
    (across : ∀ i j, i < j → ∀ first second, R (piece i first) (piece j second)) :
    (items.mapIdx piece).Pairwise R := by
  rw [List.pairwise_iff_getElem]
  intro i j _ _ earlier
  rw [List.getElem_mapIdx, List.getElem_mapIdx]
  exact across i j earlier _ _

theorem map_snd_mapIdx (label : Nat → γ) (items : List α) :
    (items.mapIdx fun i item => (label i, item)).map Prod.snd = items := by
  apply List.ext_getElem? 
  intro i
  cases found : items[i]? <;> simp [found]

theorem map_flatten_mapIdx {read : β → γ} {whole : α → List γ}
    (same : ∀ i item, (pieces i item).map read = whole item) :
    (items.mapIdx pieces).flatten.map read = items.flatMap whole := by
  rw [List.map_flatten, List.flatMap_def]
  congr 1
  apply List.ext_getElem?
  intro i
  cases found : items[i]? <;> simp [found, same]

end Positions

/-! ## The traversal of the check comes to every spot -/

/-- The sites of a data type with their spots; `i` is its position. -/
def DataType.spots (i : Nat) (dataType : DataType) : List (Spot × Site) :=
  dataType.sites.mapIdx fun j site => (.field i j, site)

/-- The sites of an interface with their spots; `i` is its position. -/
def HttpInterface.spots (i : Nat) (api : HttpInterface) : List (Spot × Site) :=
  (api.urlParams.mapIdx fun j param =>
    (.param i j, ⟨api.name ++ " url param " ++ Text.shown param.name, param.type⟩)) ++
  (api.bodyType.toList.map fun type => (.body i, ⟨api.name ++ " body", type⟩)) ++
  (api.responseType.toList.map fun type => (.response i, ⟨api.name ++ " response", type⟩))

theorem DataType.spots_snd (i : Nat) (dataType : DataType) :
    (dataType.spots i).map Prod.snd = dataType.sites := map_snd_mapIdx _ _

theorem HttpInterface.spots_snd (i : Nat) (api : HttpInterface) :
    (api.spots i).map Prod.snd = api.sites := by
  unfold spots sites
  rw [List.map_append, List.map_append, List.map_map, List.map_map]
  congr 2
  apply List.ext_getElem?
  intro j
  cases found : api.urlParams[j]? <;> simp [found]

theorem DataType.mem_spots {i : Nat} {dataType : DataType} {spot : Spot} {site : Site} :
    (spot, site) ∈ dataType.spots i ↔ ∃ fields j field, dataType.shape = .object fields ∧
      fields[j]? = some field ∧ spot = .field i j ∧
      site = ⟨dataType.name ++ "." ++ field.name, field.type⟩ := by
  unfold spots sites
  rw [List.mem_mapIdx]
  rcases shape : dataType.shape with values | base | fields
  · simp
  · simp
  · constructor
    · rintro ⟨j, bound, same⟩
      obtain ⟨rfl, rfl⟩ := Prod.mk.inj same
      simp only [List.length_map] at bound
      exact ⟨fields, j, fields[j], rfl, List.getElem?_eq_getElem bound, rfl, by simp⟩
    · rintro ⟨fields', j, field, ⟨rfl⟩, found, rfl, rfl⟩
      obtain ⟨bound, rfl⟩ := List.getElem?_eq_some_iff.mp found
      exact ⟨j, by simpa using bound, by simp⟩

theorem HttpInterface.mem_spots {i : Nat} {api : HttpInterface} {spot : Spot} {site : Site} :
    (spot, site) ∈ api.spots i ↔
      (∃ j param, api.urlParams[j]? = some param ∧ spot = .param i j ∧
        site = ⟨api.name ++ " url param " ++ Text.shown param.name, param.type⟩) ∨
      (∃ type, api.bodyType = some type ∧ spot = .body i ∧ site = ⟨api.name ++ " body", type⟩) ∨
      (∃ type, api.responseType = some type ∧ spot = .response i ∧
        site = ⟨api.name ++ " response", type⟩) := by
  unfold spots
  rw [List.mem_append, List.mem_append, List.mem_mapIdx, or_assoc]
  apply or_congr
  · constructor
    · rintro ⟨j, bound, same⟩
      obtain ⟨rfl, rfl⟩ := Prod.mk.inj same
      exact ⟨j, api.urlParams[j], List.getElem?_eq_getElem bound, rfl, rfl⟩
    · rintro ⟨j, param, found, rfl, rfl⟩
      obtain ⟨bound, rfl⟩ := List.getElem?_eq_some_iff.mp found
      exact ⟨j, bound, rfl⟩
  · apply or_congr
    · simp [eq_comm]
    · simp [eq_comm]

/-- The spots of one data type are in order. -/
theorem DataType.spots_pairwise (i : Nat) (dataType : DataType) :
    (dataType.spots i).Pairwise fun first second => first.1.Before second.1 := by
  apply pairwise_mapIdx
  intro j k earlier first second
  simpa [Spot.Before, Spot.rank, List.cons_lt_cons_iff] using earlier

/-- So are those of one interface: parameters, body, response. -/
theorem HttpInterface.spots_pairwise (i : Nat) (api : HttpInterface) :
    (api.spots i).Pairwise fun first second => first.1.Before second.1 := by
  unfold spots
  simp only [List.pairwise_append]
  refine ⟨⟨?_, ?_, ?_⟩, ?_, ?_⟩
  · apply pairwise_mapIdx
    intro j k earlier first second
    simpa [Spot.Before, Spot.rank, List.cons_lt_cons_iff] using earlier
  · cases api.bodyType <;> simp
  · intro first isParam second isBody
    obtain ⟨j, _, rfl⟩ := List.mem_mapIdx.mp isParam
    obtain ⟨type, _, rfl⟩ := List.mem_map.mp isBody
    simp [Spot.Before, Spot.rank, List.cons_lt_cons_iff]
  · cases api.responseType <;> simp
  · intro first isEarlier second isResponse
    obtain ⟨type, _, rfl⟩ := List.mem_map.mp isResponse
    rcases List.mem_append.mp isEarlier with isParam | isBody
    · obtain ⟨j, _, rfl⟩ := List.mem_mapIdx.mp isParam
      simp [Spot.Before, Spot.rank, List.cons_lt_cons_iff]
    · obtain ⟨body, _, rfl⟩ := List.mem_map.mp isBody
      simp [Spot.Before, Spot.rank, List.cons_lt_cons_iff]

/-- A spot of a data type begins with its position, one of an interface with its own. -/
theorem DataType.rank_of_mem_spots {i : Nat} {dataType : DataType} {spot : Spot} {site : Site}
    (member : (spot, site) ∈ dataType.spots i) : ∃ inside, spot.rank = 0 :: i :: inside := by
  obtain ⟨_, j, _, _, _, rfl, _⟩ := mem_spots.mp member
  exact ⟨[j], rfl⟩

theorem HttpInterface.rank_of_mem_spots {i : Nat} {api : HttpInterface} {spot : Spot} {site : Site}
    (member : (spot, site) ∈ api.spots i) : ∃ inside, spot.rank = 1 :: i :: inside := by
  rcases mem_spots.mp member with ⟨j, _, _, rfl, _⟩ | ⟨_, _, rfl, _⟩ | ⟨_, _, rfl, _⟩
  · exact ⟨[0, j], rfl⟩
  · exact ⟨[1], rfl⟩
  · exact ⟨[2], rfl⟩

namespace Metadata

variable (metadata : Metadata)

/-- Every site of a document with its spot. -/
def spots : List (Spot × Site) :=
  (metadata.dataTypes.mapIdx DataType.spots).flatten ++
    (metadata.httpInterfaces.mapIdx HttpInterface.spots).flatten

theorem spots_snd : metadata.spots.map Prod.snd = metadata.sites := by
  unfold spots sites
  rw [List.map_append, map_flatten_mapIdx DataType.spots_snd,
    map_flatten_mapIdx HttpInterface.spots_snd]

variable {metadata}

theorem mem_spots {spot : Spot} {site : Site} :
    (spot, site) ∈ metadata.spots ↔ metadata.Stands spot site := by
  unfold spots
  rw [List.mem_append, mem_flatten_mapIdx, mem_flatten_mapIdx]
  constructor
  · rintro (⟨i, dataType, known, inside⟩ | ⟨i, api, known, inside⟩)
    · obtain ⟨fields, j, field, object, there, rfl, rfl⟩ := DataType.mem_spots.mp inside
      exact .field known object there
    · rcases HttpInterface.mem_spots.mp inside with
        ⟨j, param, there, rfl, rfl⟩ | ⟨type, there, rfl, rfl⟩ | ⟨type, there, rfl, rfl⟩
      · exact .param known there
      · exact .body known there
      · exact .response known there
  · intro stands
    cases stands with
    | field known object there =>
        exact .inl ⟨_, _, known, DataType.mem_spots.mpr ⟨_, _, _, object, there, rfl, rfl⟩⟩
    | param known there =>
        exact .inr ⟨_, _, known, HttpInterface.mem_spots.mpr (.inl ⟨_, _, there, rfl, rfl⟩)⟩
    | body known there =>
        exact .inr ⟨_, _, known, HttpInterface.mem_spots.mpr (.inr (.inl ⟨_, there, rfl, rfl⟩))⟩
    | response known there =>
        exact .inr ⟨_, _, known, HttpInterface.mem_spots.mpr (.inr (.inr ⟨_, there, rfl, rfl⟩))⟩

variable (metadata)

theorem spots_pairwise : metadata.spots.Pairwise fun first second => first.1.Before second.1 := by
  unfold spots
  rw [List.pairwise_append]
  refine ⟨pairwise_flatten_mapIdx DataType.spots_pairwise ?_,
    pairwise_flatten_mapIdx HttpInterface.spots_pairwise ?_, ?_⟩
  · intro i j earlier first second x inFirst y inSecond
    obtain ⟨_, rankX⟩ := DataType.rank_of_mem_spots inFirst
    obtain ⟨_, rankY⟩ := DataType.rank_of_mem_spots inSecond
    simp [Spot.Before, rankX, rankY, List.cons_lt_cons_iff, earlier]
  · intro i j earlier first second x inFirst y inSecond
    obtain ⟨_, rankX⟩ := HttpInterface.rank_of_mem_spots inFirst
    obtain ⟨_, rankY⟩ := HttpInterface.rank_of_mem_spots inSecond
    simp [Spot.Before, rankX, rankY, List.cons_lt_cons_iff, earlier]
  · intro x inTypes y inInterfaces
    obtain ⟨i, dataType, _, inFirst⟩ := (mem_flatten_mapIdx x).mp inTypes
    obtain ⟨j, api, _, inSecond⟩ := (mem_flatten_mapIdx y).mp inInterfaces
    obtain ⟨_, rankX⟩ := DataType.rank_of_mem_spots inFirst
    obtain ⟨_, rankY⟩ := HttpInterface.rank_of_mem_spots inSecond
    simp [Spot.Before, rankX, rankY, List.cons_lt_cons_iff]

/-! ## One entry for each dangling reference -/

theorem mem_typeNames {name : Text} :
    name ∈ metadata.typeNames ↔ ∃ dataType ∈ metadata.dataTypes, dataType.name = name := by
  rw [typeNames, List.mem_eraseDups, List.mem_map]

end Metadata

theorem Site.mem_dangling {declared : List Text} {site : Site} {entry : Text} :
    entry ∈ site.dangling declared ↔ ∃ name, site.reference.Mentions name ∧ name ∉ declared ∧
      entry = site.place ++ " references undefined type " ++ Text.shown name := by
  rw [dangling, List.mem_map]
  constructor
  · rintro ⟨name, member, rfl⟩
    obtain ⟨inside, undeclared⟩ := List.mem_filter.mp member
    exact ⟨name, (site.reference.mem_names_iff name).mp inside, by simpa using undeclared, rfl⟩
  · rintro ⟨name, mentions, undeclared, rfl⟩
    have inside := (site.reference.mem_names_iff name).mpr mentions
    exact ⟨name, List.mem_filter.mpr ⟨inside, by simpa using undeclared⟩, rfl⟩

/-- A site tells one entry at most. -/
theorem Site.dangling_pairwise (declared : List Text) (site : Site) (R : Text → Text → Prop) :
    (site.dangling declared).Pairwise R := by
  have one : (site.dangling declared).length ≤ 1 := by
    rw [dangling, List.length_map]
    exact Nat.le_trans (List.length_filter_le _ _) site.reference.length_names_le
  match entries : site.dangling declared with
  | [] => exact .nil
  | [entry] => exact List.pairwise_singleton R entry
  | first :: second :: rest =>
      rw [entries] at one
      simp at one

theorem dangling_told (metadata : Metadata) :
    metadata.ToldInOrder metadata.danglingReferences := by
  refine ⟨metadata.spots.flatMap fun (spot, site) =>
    (site.dangling metadata.typeNames).map fun entry => (spot, entry), ?_, ?_, ?_⟩
  · rw [List.map_flatMap, Metadata.danglingReferences, ← metadata.spots_snd, List.flatMap_map]
    simp [Function.comp_def]
  · rw [List.pairwise_flatMap]
    constructor
    · rintro ⟨spot, site⟩ _
      rw [List.pairwise_map]
      exact site.dangling_pairwise _ _
    · refine metadata.spots_pairwise.imp ?_
      intro first second before x inFirst y inSecond
      obtain ⟨_, _, rfl⟩ := List.mem_map.mp inFirst
      obtain ⟨_, _, rfl⟩ := List.mem_map.mp inSecond
      exact before
  · intro spot entry
    have undeclared : ∀ name, name ∉ metadata.typeNames ↔
        ∀ dataType ∈ metadata.dataTypes, dataType.name ≠ name := by
      intro name
      simp [metadata.mem_typeNames]
    rw [List.mem_flatMap]
    constructor
    · rintro ⟨⟨spot', site⟩, stands, member⟩
      obtain ⟨entry', told, same⟩ := List.mem_map.mp member
      obtain ⟨rfl, rfl⟩ := Prod.mk.inj same
      obtain ⟨name, mentions, unknown, shown⟩ := Site.mem_dangling.mp told
      exact ⟨site, name, Metadata.mem_spots.mp stands, mentions, (undeclared name).mp unknown, shown⟩
    · rintro ⟨site, name, stands, mentions, unknown, shown⟩
      have told := Site.mem_dangling.mpr ⟨name, mentions, (undeclared name).mpr unknown, shown⟩
      exact ⟨(spot, site), Metadata.mem_spots.mpr stands, List.mem_map.mpr ⟨entry, told, rfl⟩⟩

end TypedEndpoints
