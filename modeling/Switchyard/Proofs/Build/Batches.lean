import Switchyard.Proofs.Build.History

/-!
  Registering items under keys, one at a time or in batches.

  A key is free for a batch if it is not taken before and no item in front has it (`Fresh`); otherwise the
  first item whose key is not free is the one to blame (`FirstTaken`).  Looking for it is a walk along the
  batch with the keys that were seen (`firstTaken?`).

  A catalogue holds items under keys (`Catalogue`).  It is told by what it appends and what it refuses, and
  its ways of registering come with the proof that they do just that.

  * `registerEach_of_fresh`, `registerEach_of_taken` — what registering one by one comes to;
  * `nodup_keys_after` — no key is taken twice, whatever was registered;
  * `noKeyTwice` — all that is to be said of a catalogue, batch by batch.
-/

namespace Switchyard

/-! ## Keys that are taken -/

section Keys

variable {α κ : Type} {key : α → κ} {taken : List κ} {x : α} {batch : List α}

/-- The keys of a batch differ from each other and from those that are taken. -/
structure Fresh (key : α → κ) (taken : List κ) (batch : List α) : Prop where
  differ : (batch.map key).Nodup
  new : ∀ x ∈ batch, key x ∉ taken

/-- The item is the first of the batch whose key was taken before, or by an item in front of it. -/
def FirstTaken (key : α → κ) (taken : List κ) (batch : List α) (x : α) : Prop :=
  ∃ earlier later, batch = earlier ++ x :: later ∧ (key x ∈ taken ∨ key x ∈ earlier.map key) ∧
    Fresh key taken earlier

/-- The first item of a batch whose key is taken, by what was there before or by an item in front of it. -/
def firstTaken? [DecidableEq κ] (key : α → κ) : List κ → List α → Option α
  | _, [] => none
  | taken, x :: rest => if key x ∈ taken then some x else firstTaken? key (key x :: taken) rest

theorem fresh_nil : Fresh key taken [] := ⟨List.nodup_nil, fun _ h => nomatch h⟩

/-- As long as nothing is taken, only the batch itself counts. -/
theorem fresh_iff_nodup : Fresh key [] batch ↔ (batch.map key).Nodup :=
  ⟨Fresh.differ, fun h => ⟨h, fun _ _ => List.not_mem_nil⟩⟩

/-- The keys of a batch are fresh if the first one is, and the others are with the first one taken. -/
theorem fresh_cons_iff {taken' : List κ} (h : ∀ k, k ∈ taken' ↔ k = key x ∨ k ∈ taken) :
    Fresh key taken (x :: batch) ↔ key x ∉ taken ∧ Fresh key taken' batch := by
  constructor
  · rintro ⟨hdiffer, hnew⟩
    obtain ⟨hx, hrest⟩ := List.nodup_cons.mp hdiffer
    refine ⟨hnew x List.mem_cons_self, hrest, fun y hy hin => ?_⟩
    rcases (h _).mp hin with heq | hin
    · exact hx (heq ▸ List.mem_map_of_mem hy)
    · exact hnew y (List.mem_cons_of_mem x hy) hin
  · rintro ⟨hx, hdiffer, hnew⟩
    refine ⟨List.nodup_cons.mpr ⟨fun hin => ?_, hdiffer⟩, List.forall_mem_cons.mpr ⟨hx, fun y hy hin => ?_⟩⟩
    · obtain ⟨y, hy, heq⟩ := List.mem_map.mp hin
      exact hnew y hy ((h _).mpr (Or.inl heq))
    · exact hnew y hy ((h _).mpr (Or.inr hin))

theorem nodup_append_of_fresh (htaken : taken.Nodup) (h : Fresh key taken batch) :
    (taken ++ batch.map key).Nodup := by
  refine List.nodup_append.mpr ⟨htaken, h.differ, fun k hk k' hk' heq => ?_⟩
  obtain ⟨x, hx, rfl⟩ := List.mem_map.mp hk'
  exact h.new x hx (heq ▸ hk)

section Walk

variable [DecidableEq κ]

/-- A batch without an item to blame is fresh. -/
theorem firstTaken?_eq_none_iff : firstTaken? key taken batch = none ↔ Fresh key taken batch := by
  induction batch generalizing taken with
  | nil => exact iff_of_true rfl fresh_nil
  | cons x batch ih =>
    rw [firstTaken?, fresh_cons_iff fun k => List.mem_cons]
    by_cases hx : key x ∈ taken
    · rw [if_pos hx]
      exact iff_of_false nofun fun h => h.1 hx
    · rw [if_neg hx, ih]
      exact (and_iff_right hx).symm

/-- The walk goes on behind items whose keys are fresh, with these keys seen. -/
theorem firstTaken?_append {earlier later : List α} (h : Fresh key taken earlier) :
    firstTaken? key taken (earlier ++ later)
      = firstTaken? key ((earlier.map key).reverse ++ taken) later := by
  induction earlier generalizing taken with
  | nil => rfl
  | cons y earlier ih =>
    obtain ⟨hy, hrest⟩ := (fresh_cons_iff fun k => List.mem_cons).mp h
    rw [List.cons_append, firstTaken?, if_neg hy, ih hrest, List.map_cons, List.reverse_cons,
      List.append_assoc]
    rfl

/-- The item that the walk finds is the one to blame. -/
theorem firstTaken?_eq_some_iff : firstTaken? key taken batch = some x ↔ FirstTaken key taken batch x := by
  constructor
  · intro h
    induction batch generalizing taken with
    | nil => nomatch h
    | cons y batch ih =>
      rw [firstTaken?] at h
      by_cases hy : key y ∈ taken
      · rw [if_pos hy] at h
        obtain rfl := Option.some.inj h
        exact ⟨[], batch, rfl, Or.inl hy, fresh_nil⟩
      · rw [if_neg hy] at h
        obtain ⟨earlier, later, rfl, htaken, hfresh⟩ := ih h
        refine ⟨y :: earlier, later, rfl, ?_, (fresh_cons_iff fun k => List.mem_cons).mpr ⟨hy, hfresh⟩⟩
        rw [List.map_cons, List.mem_cons]
        rcases htaken with htaken | htaken
        · rcases List.mem_cons.mp htaken with heq | htaken
          · exact Or.inr (Or.inl heq)
          · exact Or.inl htaken
        · exact Or.inr (Or.inr htaken)
  · rintro ⟨earlier, later, rfl, htaken, hfresh⟩
    have hseen : key x ∈ (earlier.map key).reverse ++ taken := by
      rw [List.mem_append, List.mem_reverse]
      exact htaken.symm
    rw [firstTaken?_append hfresh, firstTaken?, if_pos hseen]

end Walk
end Keys

/-! ## Catalogues -/

/-- Something that items are registered in under keys; `ι` is what is said along with a call. -/
structure Catalogue (ι γ α κ : Type) [DecidableEq κ] where
  /-- The keys that are taken. -/
  keys : γ → List κ
  /-- The key of an item. -/
  key : α → κ
  /-- The refusal of an item whose key is taken. -/
  refusal : α → BuildError
  /-- The event of registering an item. -/
  told : ι → α → Event
  /-- What is registered, and more items behind it. -/
  append : ι → γ → List α → γ
  /-- Register one item. -/
  register : ι → γ → α → Change γ Unit
  /-- Register a batch. -/
  registerAll : ι → γ → List α → Change γ Unit
  append_nil (i : ι) (g : γ) : append i g [] = g
  append_append (i : ι) (g : γ) (xs ys : List α) : append i (append i g xs) ys = append i g (xs ++ ys)
  keys_append (i : ι) (g : γ) (xs : List α) : keys (append i g xs) = keys g ++ xs.map key
  register_eq (i : ι) (g : γ) (x : α) : register i g x =
    if key x ∈ keys g then .refuse g (refusal x) else .accept (append i g [x]) () [told i x]
  registerAll_eq (i : ι) (g : γ) (xs : List α) : registerAll i g xs =
    match firstTaken? key (keys g) xs with
    | some x => .refuse g (refusal x)
    | none => .accept (append i g xs) () (xs.map (told i))

namespace Catalogue

variable {ι γ α κ : Type} [DecidableEq κ] (c : Catalogue ι γ α κ)

/-- Register items one by one, as long as they are accepted. -/
def registerEach (i : ι) : γ → List α → Change γ Unit
  | g, [] => .accept g () []
  | g, x :: rest => (c.register i g x).andThen fun g => registerEach i g rest

/-- A call that registers. -/
inductive Call (ι α : Type) where
  /-- Of one item. -/
  | one (i : ι) (x : α)
  /-- Of a batch. -/
  | batch (i : ι) (xs : List α)

/-- Make a call. -/
def perform (g : γ) : Call ι α → Change γ Unit
  | .one i x => c.register i g x
  | .batch i xs => c.registerAll i g xs

variable {c} {i : ι} {g : γ} {x : α} {batch : List α}

/-! ### Batches -/

theorem registerAll_of_fresh (h : Fresh c.key (c.keys g) batch) :
    c.registerAll i g batch = .accept (c.append i g batch) () (batch.map (c.told i)) := by
  rw [c.registerAll_eq, firstTaken?_eq_none_iff.mpr h]

theorem registerAll_of_taken (h : FirstTaken c.key (c.keys g) batch x) :
    c.registerAll i g batch = .refuse g (c.refusal x) := by
  rw [c.registerAll_eq, firstTaken?_eq_some_iff.mpr h]

/-- A batch is fresh, or there is an item to blame. -/
theorem fresh_or_taken (c : Catalogue ι γ α κ) (g : γ) (batch : List α) :
    Fresh c.key (c.keys g) batch ∨ ∃ x, FirstTaken c.key (c.keys g) batch x := by
  cases h : firstTaken? c.key (c.keys g) batch with
  | none => exact Or.inl (firstTaken?_eq_none_iff.mp h)
  | some x => exact Or.inr ⟨x, firstTaken?_eq_some_iff.mp h⟩

/-- One item is registered as a batch of its own is. -/
theorem register_eq_registerAll (c : Catalogue ι γ α κ) (i : ι) (g : γ) (x : α) :
    c.register i g x = c.registerAll i g [x] := by
  rw [c.register_eq, c.registerAll_eq, firstTaken?]
  by_cases hx : c.key x ∈ c.keys g
  · rw [if_pos hx, if_pos hx]
  · rw [if_neg hx, if_neg hx]
    rfl

/-! ### One by one -/

/-- Once an item is registered, its key is taken too. -/
theorem mem_keys_append_singleton (k : κ) :
    k ∈ c.keys (c.append i g [x]) ↔ k = c.key x ∨ k ∈ c.keys g := by
  rw [c.keys_append, List.mem_append, List.map_singleton, List.mem_singleton]
  exact or_comm

/-- A fresh item is registered, and the others after it. -/
theorem registerEach_cons_of_new (hx : c.key x ∉ c.keys g) (rest : List α) :
    c.registerEach i g (x :: rest) =
      ⟨(c.registerEach i (c.append i g [x]) rest).after, (c.registerEach i (c.append i g [x]) rest).result,
        c.told i x :: (c.registerEach i (c.append i g [x]) rest).events⟩ := by
  rw [registerEach, c.register_eq, if_neg hx]
  rfl

/-- **One by one, a fresh batch is registered as it is at once.** -/
theorem registerEach_of_fresh (h : Fresh c.key (c.keys g) batch) :
    c.registerEach i g batch = .accept (c.append i g batch) () (batch.map (c.told i)) := by
  induction batch generalizing g with
  | nil => rw [registerEach, c.append_nil, List.map_nil]
  | cons x batch ih =>
    obtain ⟨hx, hrest⟩ := (fresh_cons_iff mem_keys_append_singleton).mp h
    rw [registerEach_cons_of_new hx, ih hrest, Change.accept, c.append_append]
    rfl

/-- **One by one, items are registered up to the one to blame**, and this is refused. -/
theorem registerEach_of_taken {earlier : List α} (later : List α) (hfresh : Fresh c.key (c.keys g) earlier)
    (hx : c.key x ∈ c.keys g ∨ c.key x ∈ earlier.map c.key) :
    c.registerEach i g (earlier ++ x :: later) =
      ⟨c.append i g earlier, .error (c.refusal x), earlier.map (c.told i)⟩ := by
  induction earlier generalizing g with
  | nil =>
    rw [List.nil_append, registerEach, c.register_eq, if_pos (hx.resolve_right List.not_mem_nil),
      c.append_nil]
    rfl
  | cons y earlier ih =>
    obtain ⟨hy, hrest⟩ := (fresh_cons_iff mem_keys_append_singleton).mp hfresh
    have hx' : c.key x ∈ c.keys (c.append i g [y]) ∨ c.key x ∈ earlier.map c.key := by
      rw [mem_keys_append_singleton]
      rcases hx with hx | hx
      · exact Or.inl (Or.inr hx)
      · exact (List.mem_cons.mp hx).imp_left Or.inl
    rw [List.cons_append, registerEach_cons_of_new hy, ih hrest hx', c.append_append]
    rfl

/-! ### Histories -/

/-- What a call says along with its items. -/
def Call.context : Call ι α → ι
  | .one i _ => i
  | .batch i _ => i

/-- The items of a call. -/
def Call.items : Call ι α → List α
  | .one _ x => [x]
  | .batch _ xs => xs

/-- A call registers its items as a batch. -/
theorem perform_eq_registerAll (c : Catalogue ι γ α κ) (g : γ) (k : Call ι α) :
    c.perform g k = c.registerAll k.context g k.items := by
  cases k with
  | one i x => exact c.register_eq_registerAll i g x
  | batch i xs => rfl

/-- A catalogue as a construction that never ends: what it grows by are fresh batches. -/
def construction (c : Catalogue ι γ α κ) : Construction γ (Call ι α) where
  perform := c.perform
  Open _ := True
  Admissible g k := Fresh c.key (c.keys g) k.items
  grow g k := c.append k.context g k.items
  performed g k := by
    rw [perform_eq_registerAll]
    rcases c.fresh_or_taken g k.items with hfresh | ⟨x, htaken⟩
    · rw [registerAll_of_fresh hfresh]
      exact .grew _ _ trivial hfresh rfl
    · rw [registerAll_of_taken htaken]
      exact .refused _ _

/-- What is registered after calls. -/
def after (c : Catalogue ι γ α κ) (g : γ) (calls : List (Call ι α)) : γ := c.construction.after g calls

/-- **No key is taken twice**, whatever was registered. -/
theorem nodup_keys_after (hstart : (c.keys g).Nodup) (calls : List (Call ι α)) :
    (c.keys (c.after g calls)).Nodup := by
  refine Construction.open_induction (c := c.construction) (R := fun _ g => (c.keys g).Nodup) hstart ?_
    trivial
  intro done g k hnodup hfresh
  show (c.keys (c.append k.context g k.items)).Nodup
  rw [c.keys_append]
  exact nodup_append_of_fresh hnodup hfresh

/-- Batch by batch, no key is taken twice in a catalogue. -/
structure NoKeyTwice (c : Catalogue ι γ α κ) (start : γ) : Prop where
  /-- After any calls, whether accepted or not, the keys are all different. -/
  distinct (calls : List (Call ι α)) : (c.keys (c.after start calls)).Nodup
  /-- A batch is accepted exactly if its keys differ from each other and from those that are taken. -/
  accepts (i : ι) (g : γ) (batch : List α) : (c.registerAll i g batch).result = .ok () ↔
    (batch.map c.key).Nodup ∧ ∀ x ∈ batch, c.key x ∉ c.keys g
  /-- Its items are then registered behind the others, in order. -/
  appends (i : ι) (g : γ) (batch : List α) : (c.registerAll i g batch).result = .ok () →
    (c.registerAll i g batch).after = c.append i g batch
  /-- Otherwise the refusal names the first item of the batch whose key was taken before or by an item in
      front of it. -/
  refuses (i : ι) (g : γ) (batch : List α) (e : BuildError) : (c.registerAll i g batch).result = .error e ↔
    ∃ x, FirstTaken c.key (c.keys g) batch x ∧ e = c.refusal x
  /-- A batch that is refused leaves everything as it was. -/
  unchanged (i : ι) (g : γ) (batch : List α) (e : BuildError) :
    (c.registerAll i g batch).result = .error e → (c.registerAll i g batch).after = g
  /-- A batch comes to what registering its items one by one comes to: it is accepted, or refused for the
      same reason. -/
  oneByOne (i : ι) (g : γ) (batch : List α) :
    (c.registerEach i g batch).result = (c.registerAll i g batch).result
  /-- If it is accepted, the same is registered. -/
  sameAfter (i : ι) (g : γ) (batch : List α) : (c.registerAll i g batch).result = .ok () →
    (c.registerEach i g batch).after = (c.registerAll i g batch).after

theorem noKeyTwice {start : γ} (hstart : (c.keys start).Nodup) : c.NoKeyTwice start where
  distinct := nodup_keys_after hstart
  accepts i g batch := by
    rcases c.fresh_or_taken g batch with hfresh | ⟨x, htaken⟩
    · rw [registerAll_of_fresh hfresh]
      exact iff_of_true rfl ⟨hfresh.differ, hfresh.new⟩
    · rw [registerAll_of_taken htaken]
      refine iff_of_false nofun fun h => ?_
      have hnone := firstTaken?_eq_none_iff.mpr ⟨h.1, h.2⟩
      rw [firstTaken?_eq_some_iff.mpr htaken] at hnone
      nomatch hnone
  appends i g batch hok := by
    rcases c.fresh_or_taken g batch with hfresh | ⟨x, htaken⟩
    · rw [registerAll_of_fresh hfresh]
      rfl
    · rw [registerAll_of_taken htaken] at hok
      nomatch hok
  refuses i g batch e := by
    rcases c.fresh_or_taken g batch with hfresh | ⟨x, htaken⟩
    · rw [registerAll_of_fresh hfresh]
      refine iff_of_false nofun ?_
      rintro ⟨x, htaken, -⟩
      have hsome := firstTaken?_eq_some_iff.mpr htaken
      rw [firstTaken?_eq_none_iff.mpr hfresh] at hsome
      nomatch hsome
    · rw [registerAll_of_taken htaken]
      constructor
      · intro herror
        exact ⟨x, htaken, (Except.error.inj herror).symm⟩
      · rintro ⟨y, htaken', rfl⟩
        have hsame := (firstTaken?_eq_some_iff.mpr htaken).symm.trans (firstTaken?_eq_some_iff.mpr htaken')
        rw [Option.some.inj hsame]
        rfl
  unchanged i g batch e herror := by
    rcases c.fresh_or_taken g batch with hfresh | ⟨x, htaken⟩
    · rw [registerAll_of_fresh hfresh] at herror
      nomatch herror
    · rw [registerAll_of_taken htaken]
      rfl
  oneByOne i g batch := by
    rcases c.fresh_or_taken g batch with hfresh | ⟨x, htaken⟩
    · rw [registerEach_of_fresh hfresh, registerAll_of_fresh hfresh]
    · rw [registerAll_of_taken htaken]
      obtain ⟨earlier, later, rfl, hx, hearlier⟩ := htaken
      rw [registerEach_of_taken later hearlier hx]
      rfl
  sameAfter i g batch hok := by
    rcases c.fresh_or_taken g batch with hfresh | ⟨x, htaken⟩
    · rw [registerEach_of_fresh hfresh, registerAll_of_fresh hfresh]
    · rw [registerAll_of_taken htaken] at hok
      nomatch hok

end Catalogue
end Switchyard
