import AdQueue.Domain.Ad

/-!
# The in-memory ad repository

`persistence.MemoryAdRepository`: a map from the string of an identifier to the entity saved
under it.  The map is a list without two entities of one identifier, in the order Go happens
to iterate it; every statement below holds for every such order.  The repository hands out
the stored entities themselves, so `UpdatePriorityBatch` changes them in place, one after
another, and an error leaves the changes made before it.

`updatePriorityBatch_of_valid` says what a batch does when every identifier names a distinct
stored ad whose priority may change: each of them, and nothing else, takes the new priority
and one more version.  That includes `failed` ads, which `ChangePriority` accepts.  A batch
that reaches an ad `ChangePriority` refuses returns its error with the earlier changes in
place (`updatePriorityBatch_keeps_first_change`).

`Save` stores the entity under its identifier with no look at the stored version, and returns
nil for every entity (`save_fst`, `findByID_save`).
-/

namespace AdQueue

/-- `persistence.MemoryAdRepository`: the stored entities, one per identifier. -/
structure MemoryAdRepository where
  ads : List Ad
  nodup : (ads.map fun a => a.id.value).Nodup

namespace MemoryAdRepository

/-- `FindByID`. -/
def findByID (r : MemoryAdRepository) (id : AdID) : Except String Ad :=
  match r.ads.find? fun a => a.id.value = id.value with
  | none => .error "ad not found"
  | some a => .ok a

/-- `FindByGameFamily`. -/
def findByGameFamily (r : MemoryAdRepository) (gameFamily : String) : List Ad :=
  r.ads.filter fun a => a.gameFamily = gameFamily

/-- `FindOlderThan`: created strictly before the threshold. -/
def findOlderThan (r : MemoryAdRepository) (threshold : Int) : List Ad :=
  r.ads.filter fun a => a.createdAt < threshold

/-- The stored entity of `a`'s identifier replaced by `a`. -/
def replace (r : MemoryAdRepository) (a : Ad) : MemoryAdRepository where
  ads := r.ads.map fun b => if b.id.value = a.id.value then a else b
  nodup := by
    rw [List.map_map]
    convert r.nodup using 1
    exact List.map_congr_left fun b _ => by by_cases h : b.id.value = a.id.value <;> simp [h]

/-- An entity of an identifier not yet stored, added. -/
def add (r : MemoryAdRepository) (a : Ad) (h : a.id.value ∉ r.ads.map fun b => b.id.value) :
    MemoryAdRepository where
  ads := r.ads ++ [a]
  nodup := by
    rw [List.map_append, List.nodup_append]
    exact ⟨r.nodup, List.nodup_singleton _, by simpa using h⟩

/-- `Save`: the entity goes in under its identifier, over whatever is stored there; it
returns nil. -/
def save (r : MemoryAdRepository) (a : Ad) : Except AdError Unit × MemoryAdRepository :=
  if h : a.id.value ∈ r.ads.map fun b => b.id.value then (.ok (), r.replace a)
  else (.ok (), r.add a h)

/-- `UpdatePriorityBatch`: `ChangePriority` on each stored entity named, in order; an
absent identifier is skipped. -/
def updatePriorityBatch (r : MemoryAdRepository) : List AdID → Int → Except String Unit × MemoryAdRepository
  | [], _ => (.ok (), r)
  | id :: ids, newPriority =>
    match r.ads.find? fun a => a.id.value = id.value with
    | none => r.updatePriorityBatch ids newPriority
    | some a =>
      match a.changePriority newPriority with
      | .error e => (.error ("failed to update priority for ad " ++ id.value ++ ": " ++ e.message), r)
      | .ok a' => (r.replace a').updatePriorityBatch ids newPriority

/-- What a business method run in place on a stored entity returns: its error, or nil with
the entity changed. -/
def storeResult (r : MemoryAdRepository) : Except AdError Ad → Except String Unit × MemoryAdRepository
  | .error e => (.error e.message, r)
  | .ok a' => (.ok (), r.replace a')

/-- `UpdateStatus`: the status method of the target, run in place on the stored entity.
The version is not looked at, and a target other than the three the switch names returns
nil. -/
def updateStatus (r : MemoryAdRepository) (id : AdID) (status : AdStatus) (_version : Int)
    (now : Int) : Except String Unit × MemoryAdRepository :=
  match r.ads.find? fun a => a.id.value = id.value with
  | none => (.error "ad not found", r)
  | some a =>
    if status = .processing then r.storeResult (a.startProcessing now)
    else if status = .completed then r.storeResult (a.completeProcessing now)
    else if status = .failed then r.storeResult a.failProcessing
    else (.ok (), r)

/-! ## A batch on changeable ads -/

theorem find?_eq_some {r : MemoryAdRepository} {a : Ad} (ha : a ∈ r.ads) :
    (r.ads.find? fun b => b.id.value = a.id.value) = some a := by
  have hs : (r.ads.find? fun b => b.id.value = a.id.value).isSome :=
    List.find?_isSome.mpr ⟨a, ha, by simp⟩
  obtain ⟨b, hb⟩ := Option.isSome_iff_exists.mp hs
  have hid : b.id.value = a.id.value := by simpa using List.find?_some hb
  rw [hb, List.inj_on_of_nodup_map r.nodup (List.mem_of_find?_eq_some hb) ha hid]

/-- The ads with a changed priority: `q` and one more version for those selected. -/
def bump (sel : Ad → Bool) (q : Int) (a : Ad) : Ad :=
  if sel a then { a with priority := q, version := a.version + 1 } else a

/-- A batch over distinct stored ads that may all take the new priority: it succeeds, and
those ads, and only those, take it with one more version. -/
theorem updatePriorityBatch_of_valid {q : Int} (hq : 1 ≤ q ∧ q ≤ 5) :
    ∀ (sel : List Ad) (r : MemoryAdRepository), (sel.map fun a => a.id.value).Nodup →
      (∀ a ∈ sel, a ∈ r.ads ∧ a.status ≠ .processing ∧ a.status ≠ .completed) →
      ∃ r', r.updatePriorityBatch (sel.map Ad.id) q = (.ok (), r') ∧
        r'.ads = r.ads.map (bump (fun a => decide (a ∈ sel)) q)
  | [], r, _, _ => ⟨r, rfl, (List.map_id'' (fun a => by simp [bump]) r.ads).symm⟩
  | a :: sel, r, hnd, hsel => by
    obtain ⟨ha, hp, hc⟩ := hsel a (List.mem_cons_self _ _)
    have hch : a.changePriority q =
        .ok { a with priority := q, version := a.version + 1 } := by
      simp [Ad.changePriority, hq.1, hq.2, hp, hc]
    have hnot : a.id.value ∉ sel.map fun b => b.id.value := (List.nodup_cons.mp hnd).1
    set a' : Ad := { a with priority := q, version := a.version + 1 }
    have hrest : ∀ b ∈ sel, b ∈ (r.replace a').ads ∧ b.status ≠ .processing ∧
        b.status ≠ .completed := by
      intro b hb
      obtain ⟨hbr, hbp, hbc⟩ := hsel b (List.mem_cons_of_mem _ hb)
      have hba : b.id.value ≠ a.id.value := fun h => hnot (List.mem_map.mpr ⟨b, hb, h⟩)
      exact ⟨List.mem_map.mpr ⟨b, hbr, if_neg hba⟩, hbp, hbc⟩
    obtain ⟨r', hrun, hads⟩ :=
      updatePriorityBatch_of_valid hq sel (r.replace a') (List.nodup_cons.mp hnd).2 hrest
    refine ⟨r', ?_, ?_⟩
    · simp only [List.map_cons, updatePriorityBatch, find?_eq_some ha, hch]
      exact hrun
    · rw [hads, replace, List.map_map]
      refine List.map_congr_left fun b hb => ?_
      by_cases hba : b.id.value = a.id.value
      · obtain rfl := List.inj_on_of_nodup_map r.nodup hb ha hba
        have hbs : b ∉ sel := fun h => hnot (List.mem_map.mpr ⟨b, h, rfl⟩)
        have ha's : a' ∉ sel := fun h => hnot (List.mem_map.mpr ⟨a', h, rfl⟩)
        simp [bump, hbs, ha's]
      · have hne : b ≠ a := fun h => hba (h ▸ rfl)
        simp [bump, hba, hne]

/-! ## Save and a failing batch -/

theorem mem_replace {r : MemoryAdRepository} {a : Ad}
    (h : a.id.value ∈ r.ads.map fun b => b.id.value) : a ∈ (r.replace a).ads := by
  obtain ⟨b, hb, hid⟩ := List.mem_map.mp h
  exact List.mem_map.mpr ⟨b, hb, if_pos hid⟩

theorem findByID_replace {r : MemoryAdRepository} {a : Ad}
    (h : a.id.value ∈ r.ads.map fun b => b.id.value) : (r.replace a).findByID a.id = .ok a := by
  simp [findByID, find?_eq_some (mem_replace h)]

@[simp] theorem save_fst (r : MemoryAdRepository) (a : Ad) : (r.save a).1 = .ok () := by
  unfold save
  split_ifs <;> rfl

theorem findByID_save (r : MemoryAdRepository) (a : Ad) : (r.save a).2.findByID a.id = .ok a := by
  unfold save
  split_ifs with h
  · exact findByID_replace h
  · simp [findByID, find?_eq_some (r := r.add a h) (List.mem_append_right _ (List.mem_singleton_self a))]

/-- A batch naming a stored queued ad and then a stored `processing` ad, with a priority in
`1 .. 5`: it returns the error of the second, and the first has already changed. -/
theorem updatePriorityBatch_keeps_first_change {r : MemoryAdRepository} {a b : Ad}
    (ha : a ∈ r.ads) (hb : b ∈ r.ads) (hab : a.id.value ≠ b.id.value) (haq : a.status = .queued)
    (hbp : b.status = .processing) {q : Int} (hq : 1 ≤ q ∧ q ≤ 5) :
    let a' : Ad := { a with priority := q, version := a.version + 1 }
    r.updatePriorityBatch [a.id, b.id] q =
        (.error ("failed to update priority for ad " ++ b.id.value ++ ": " ++
          AdError.cannotChangePriorityAfterProcessing.message), r.replace a') ∧
      r.findByID a.id = .ok a ∧ (r.replace a').findByID a.id = .ok a' := by
  intro a'
  have hv : Priority.isValid q = true := (Priority.isValid_iff q).mpr hq
  have hch : a.changePriority q = .ok a' := by
    rw [Ad.changePriority, if_neg (by simp [hv]), if_neg (by simp [haq])]
  have hbch : b.changePriority q = .error .cannotChangePriorityAfterProcessing := by
    simp [Ad.changePriority, hv, hbp]
  have hb' : b ∈ (r.replace a').ads := List.mem_map.mpr ⟨b, hb, if_neg (Ne.symm hab)⟩
  have hmem : a'.id.value ∈ r.ads.map fun c => c.id.value := List.mem_map.mpr ⟨a, ha, rfl⟩
  refine ⟨?_, by simp [findByID, find?_eq_some ha], findByID_replace hmem⟩
  simp only [updatePriorityBatch, find?_eq_some ha, hch, find?_eq_some hb', hbch]

theorem updatePriorityBatch_keeps_first_change_at_sample :
    let a : Ad := ⟨⟨"123e4567-e89b-12d3-a456-426614174000"⟩, "Summer sale", "RPG", ["all"], 3,
      300000000000, .queued, 0, none, none, none, 1⟩
    let b : Ad := ⟨⟨"123e4567-e89b-12d3-a456-426614174001"⟩, "Winter sale", "RPG", ["all"], 3,
      300000000000, .processing, 0, some 1, none, none, 2⟩
    let r : MemoryAdRepository := ⟨[a, b], by decide⟩
    let a' : Ad := { a with priority := 5, version := a.version + 1 }
    r.updatePriorityBatch [a.id, b.id] 5 =
        (.error ("failed to update priority for ad " ++ b.id.value ++ ": " ++
          AdError.cannotChangePriorityAfterProcessing.message), r.replace a') ∧
      r.findByID a.id = .ok a ∧ (r.replace a').findByID a.id = .ok a' :=
  updatePriorityBatch_keeps_first_change (List.mem_cons_self _ _)
    (List.mem_cons_of_mem _ (List.mem_singleton_self _)) (by decide) rfl rfl (by decide)

end MemoryAdRepository

end AdQueue
