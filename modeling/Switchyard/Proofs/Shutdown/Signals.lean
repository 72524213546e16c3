import Mathlib.Data.List.GetD
import Mathlib.Data.List.Induction
import Switchyard.Shutdown

/-!
  Which futures a signal reaches.

  Handles and futures are made, used and dropped in any order.  What a call answers is told by the calls before
  it and their answers alone: a future is ready if a signal was sent after it was obtained, through whichever
  handle, however many signals there were, and whoever else waited.  The channel keeps one signal only, so a
  future that was overtaken does not find its signal any more, but it finds that it missed some.

  The invariant relates the calls so far to the channel (`TellsHandles`, `TellsFutures`): a future that waits
  stands before the end of the channel just if a signal was sent since it was obtained.  All that a call can
  come to is one of the cases of `Performed`, and each of them keeps the invariant.

  The main statement is `signals_reach_later_polls`.
-/

namespace Switchyard.Shutdown

/-! ## Calls and their answers -/

/-- Carry out calls on a new channel: the calls with their answers, and what becomes of the channel. -/
def run (calls : List Call) : List (Call × Answer) × Shutdown :=
  calls.foldl (fun r call => (r.1 ++ [(call, (r.2.perform call).1)], (r.2.perform call).2)) ([], {})

section Past

variable (past : List (Call × Answer))

/-- A handle was made: it is the first one, or it was cloned. -/
def Made (handle : Nat) : Prop := handle = 0 ∨ ∃ h, (.clone h, .number handle) ∈ past

/-- A handle was dropped. -/
def Dropped (handle : Nat) : Prop := (.drop handle, .done) ∈ past

/-- A handle was made and is still there. -/
def Alive (handle : Nat) : Prop := Made past handle ∧ ¬ Dropped past handle

/-- A future was obtained. -/
def Obtained (future : Nat) : Prop := ∃ h, (.signalled h, .number future) ∈ past

/-- A future was polled to its end, or dropped. -/
def Ended (future : Nat) : Prop := (.poll future, .ready) ∈ past ∨ (.dropFuture future, .done) ∈ past

/-- A future was obtained and is still there. -/
def Waits (future : Nat) : Prop := Obtained past future ∧ ¬ Ended past future

/-- A signal was sent after a future was obtained, through any handles. -/
def SentSince (future : Nat) : Prop :=
  ∃ before after h h', past = before ++ (.signalled h, .number future) :: after ∧
    (.trigger h', .done) ∈ after

variable {past} {e : Call × Answer} {h f : Nat}

/-- A handle was made before, or by the last call. -/
theorem made_concat_iff : Made (past ++ [e]) h ↔ Made past h ∨ ∃ h', e = (.clone h', .number h) := by
  simp only [Made, List.mem_append, List.mem_singleton, exists_or, or_assoc, eq_comm]

theorem dropped_concat_iff : Dropped (past ++ [e]) h ↔ Dropped past h ∨ e = (.drop h, .done) := by
  simp only [Dropped, List.mem_append, List.mem_singleton, eq_comm]

theorem obtained_concat_iff :
    Obtained (past ++ [e]) f ↔ Obtained past f ∨ ∃ h, e = (.signalled h, .number f) := by
  simp only [Obtained, List.mem_append, List.mem_singleton, exists_or, eq_comm]

theorem ended_concat_iff :
    Ended (past ++ [e]) f ↔ Ended past f ∨ e = (.poll f, .ready) ∨ e = (.dropFuture f, .done) := by
  simp only [Ended, List.mem_append, List.mem_singleton, eq_comm]
  exact or_or_or_comm

/-- A trigger came after a future was obtained only if it was. -/
theorem SentSince.obtained (hsent : SentSince past f) : Obtained past f := by
  obtain ⟨before, after, h, -, rfl, -⟩ := hsent
  exact ⟨h, List.mem_append_right before List.mem_cons_self⟩

/-- After one more call a signal was sent since a future was obtained if there was one before, or if this call
    sent it and the future was there. -/
theorem sentSince_concat_iff :
    SentSince (past ++ [e]) f ↔ SentSince past f ∨ Obtained past f ∧ ∃ h, e = (.trigger h, .done) := by
  constructor
  · rintro ⟨before, after, h, h', heq, hsent⟩
    -- the signal stands behind the future; the last call behind it is the new one
    rcases List.eq_nil_or_concat after with rfl | ⟨after, last, rfl⟩
    · nomatch hsent
    · rw [List.concat_eq_append] at heq hsent
      have hsplit : past ++ [e] = (before ++ (.signalled h, .number f) :: after) ++ [last] := by
        simpa using heq
      obtain ⟨rfl, hlast⟩ := List.append_inj' hsplit rfl
      obtain rfl : e = last := List.head_eq_of_cons_eq hlast
      rcases List.mem_append.mp hsent with hsent | hsent
      · exact Or.inl ⟨before, after, h, h', rfl, hsent⟩
      · have hobtained : Obtained (before ++ (.signalled h, .number f) :: after) f :=
          ⟨h, List.mem_append_right before List.mem_cons_self⟩
        exact Or.inr ⟨hobtained, h', (List.mem_singleton.mp hsent).symm⟩
  · rintro (⟨before, after, h, h', rfl, hsent⟩ | ⟨⟨h, hmem⟩, h', rfl⟩)
    · exact ⟨before, after ++ [e], h, h', by simp, List.mem_append_left _ hsent⟩
    · obtain ⟨before, after, rfl⟩ := List.append_of_mem hmem
      exact ⟨before, after ++ [(.trigger h', .done)], h, h', by simp,
        List.mem_append_right after List.mem_cons_self⟩

end Past

/-! ## The parts of a channel -/

/-- What stands at a place after something was put last. -/
theorem getD_concat {α : Type} (l : List α) (x d : α) (i : Nat) :
    (l ++ [x]).getD i d = if i = l.length then x else l.getD i d := by
  rcases Nat.lt_trichotomy i l.length with hlt | rfl | hgt
  · rw [if_neg (Nat.ne_of_lt hlt), List.getD_append _ _ _ _ hlt]
  · rw [if_pos rfl, List.getD_append_right _ _ _ _ (Nat.le_refl _), Nat.sub_self]
    rfl
  · have hlong : (l ++ [x]).length ≤ i := by
      rw [List.length_append]
      exact hgt
    rw [if_neg (Nat.ne_of_gt hgt), List.getD_eq_default _ _ hlong,
      List.getD_eq_default _ _ (Nat.le_of_lt hgt)]

/-- What stands at a place after what stands at one was replaced by what stands where there is no place. -/
theorem getD_set_default {α : Type} (l : List α) (d : α) (i j : Nat) :
    (l.set i d).getD j d = if j = i then d else l.getD j d := by
  rw [List.getD_eq_getElem?_getD, List.getElem?_set]
  by_cases hj : j = i
  · subst hj
    rw [if_pos rfl, if_pos rfl]
    split
    · rfl
    · rfl
  · rw [if_neg (Ne.symm hj), if_neg hj, List.getD_eq_getElem?_getD]

/-- The position of a future that is still there. -/
def position? (s : Shutdown) (future : Nat) : Option Nat := s.futures.getD future none

variable {s s' : Shutdown}

/-- A future that was just obtained waits for the next trigger; the others are where they were. -/
theorem position?_subscribe (f : Nat) :
    s.subscribe.position? f = if f = s.futures.length then some s.sent else s.position? f :=
  getD_concat s.futures (some s.sent) none f

/-- A future that is dropped waits for nothing. -/
theorem position?_dropFuture (f g : Nat) :
    (s.dropFuture f).position? g = if g = f then none else s.position? g :=
  getD_set_default s.futures none f g

/-- A clone is a handle that is there. -/
theorem isAlive_clone (h : Nat) : s.clone.isAlive h = if h = s.handles.length then true else s.isAlive h :=
  getD_concat s.handles true false h

/-- A handle that is dropped is gone. -/
theorem isAlive_drop (h g : Nat) : (s.drop h).isAlive g = if g = h then false else s.isAlive g :=
  getD_set_default s.handles false h g

theorem lt_length_of_position? {f p : Nat} (h : s.position? f = some p) : f < s.futures.length := by
  refine Nat.lt_of_not_le fun hle => ?_
  rw [position?, List.getD_eq_default _ _ hle] at h
  cases h

theorem lt_length_of_isAlive {h : Nat} (halive : s.isAlive h = true) : h < s.handles.length := by
  refine Nat.lt_of_not_le fun hle => ?_
  rw [isAlive, List.getD_eq_default _ _ hle] at halive
  cases halive

/-- A trigger leaves handles and futures as they are. -/
theorem handles_trigger : s.trigger.handles = s.handles ∧ s.trigger.futures = s.futures := by
  rw [trigger]
  split
  · exact ⟨rfl, rfl⟩
  · exact ⟨rfl, rfl⟩

/-- A signal is sent unless nobody waits. -/
theorem sent_trigger {f p : Nat} (h : s.position? f = some p) : s.trigger.sent = s.sent + 1 := by
  have hsome : 0 < s.receiverCount := by
    refine List.countP_pos_iff.mpr ⟨some p, ?_, rfl⟩
    have hlt := lt_length_of_position? h
    rw [position?, List.getD_eq_getElem _ _ hlt] at h
    exact h ▸ List.getElem_mem hlt
  rw [trigger, if_neg (Nat.ne_of_gt hsome)]

/-- As long as a handle is alive, a future is not ready just if it stands at the end of the channel. -/
theorem receive_eq_empty_iff {h p : Nat} (halive : s.isAlive h = true) :
    s.receive p = .empty ↔ s.sent ≤ p := by
  have hany : s.handles.any id = true := by
    have hlt := lt_length_of_isAlive halive
    rw [isAlive, List.getD_eq_getElem _ _ hlt] at halive
    exact List.any_eq_true.mpr ⟨_, List.getElem_mem hlt, halive⟩
  rw [receive, if_pos hany]
  by_cases hend : s.sent ≤ p
  · rw [if_pos hend]
    exact iff_of_true rfl hend
  · rw [if_neg hend]
    refine iff_of_false ?_ hend
    split
    · exact nofun
    · exact nofun

/-! ## What a call can come to -/

/-- All that a call can come to: its answer, and what becomes of the channel. -/
inductive Performed (s : Shutdown) : Call → Answer → Shutdown → Prop where
  | signalled {h : Nat} (halive : s.isAlive h = true) :
    Performed s (.signalled h) (.number s.futures.length) s.subscribe
  | trigger {h : Nat} (halive : s.isAlive h = true) : Performed s (.trigger h) .done s.trigger
  | count {h : Nat} (halive : s.isAlive h = true) : Performed s (.count h) (.number s.receiverCount) s
  | clone {h : Nat} (halive : s.isAlive h = true) :
    Performed s (.clone h) (.number s.handles.length) s.clone
  | drop {h : Nat} (halive : s.isAlive h = true) : Performed s (.drop h) .done (s.drop h)
  | ready {f p : Nat} (hposition : s.position? f = some p) (hready : s.receive p ≠ .empty) :
    Performed s (.poll f) .ready (s.dropFuture f)
  | pending {f p : Nat} (hposition : s.position? f = some p) (hempty : s.receive p = .empty) :
    Performed s (.poll f) .pending s
  | dropFuture {f p : Nat} (hposition : s.position? f = some p) :
    Performed s (.dropFuture f) .done (s.dropFuture f)
  /-- The handle or the future does not exist any more. -/
  | gone (call : Call) : Performed s call .gone s

/-- What is done on a handle is done if it is there, and refused otherwise. -/
theorem performed_onHandle {h : Nat} {call : Call} {r : Answer × Shutdown}
    (hr : s.isAlive h = true → Performed s call r.1 r.2) :
    Performed s call (s.onHandle h r).1 (s.onHandle h r).2 := by
  rw [onHandle]
  by_cases halive : s.isAlive h = true
  · rw [if_pos halive]
    exact hr halive
  · rw [if_neg halive]
    exact .gone call

/-- **Every call comes to one of these.** -/
theorem performed_perform (s : Shutdown) (call : Call) :
    Performed s call (s.perform call).1 (s.perform call).2 := by
  cases call with
  | signalled h => exact performed_onHandle fun halive => .signalled halive
  | trigger h => exact performed_onHandle fun halive => .trigger halive
  | count h => exact performed_onHandle fun halive => .count halive
  | clone h => exact performed_onHandle fun halive => .clone halive
  | drop h => exact performed_onHandle fun halive => .drop halive
  | poll f =>
    rw [perform]
    cases hposition : s.futures.getD f none with
    | none => exact .gone _
    | some p =>
      by_cases hempty : s.receive p = .empty
      · simp only [if_pos hempty]
        exact .pending hposition hempty
      · simp only [if_neg hempty]
        exact .ready hposition hempty
  | dropFuture f =>
    rw [perform]
    cases hposition : s.futures.getD f none with
    | none => exact .gone _
    | some p => exact .dropFuture hposition

/-! ## The invariant -/

variable {past : List (Call × Answer)}

/-- What the calls so far tell about the handles. -/
structure TellsHandles (past : List (Call × Answer)) (s : Shutdown) : Prop where
  made : ∀ h, Made past h ↔ h < s.handles.length
  dropped : ∀ h, Dropped past h → h < s.handles.length
  alive : ∀ h, Alive past h ↔ s.isAlive h = true

/-- What the calls so far tell about the futures. -/
structure TellsFutures (past : List (Call × Answer)) (s : Shutdown) : Prop where
  obtained : ∀ f, Obtained past f ↔ f < s.futures.length
  ended : ∀ f, Ended past f → f < s.futures.length
  waits : ∀ f, Waits past f ↔ ∃ p, s.position? f = some p
  /-- A future never stands behind the end of the channel, and before it just if a signal was sent since. -/
  sent : ∀ f p, s.position? f = some p → p ≤ s.sent ∧ (SentSince past f ↔ p < s.sent)

/-- In the beginning there is one handle. -/
theorem tellsHandles_new : TellsHandles [] {} where
  made h := by simp [Made]
  dropped h := nofun
  alive h := by
    cases h with
    | zero => simp [Alive, Made, Dropped, isAlive]
    | succ h => simp [Alive, Made, isAlive]

/-- And there is no future. -/
theorem tellsFutures_new : TellsFutures [] {} where
  obtained f := by simp [Obtained]
  ended f := by simp [Ended]
  waits f := by simp [Waits, Obtained, position?]
  sent f p h := by simp [position?] at h

/-- A call that neither makes nor drops a handle changes nothing about them. -/
theorem TellsHandles.idle (ht : TellsHandles past s) {call : Call} {answer : Answer}
    (hclone : ∀ h n, (call, answer) ≠ (.clone h, .number n)) (hdrop : ∀ h, (call, answer) ≠ (.drop h, .done))
    (hsame : s'.handles = s.handles) : TellsHandles (past ++ [(call, answer)]) s' := by
  have hmade : ∀ h, Made (past ++ [(call, answer)]) h ↔ Made past h := fun h =>
    made_concat_iff.trans (or_iff_left fun ⟨h', heq⟩ => hclone h' h heq)
  have hdropped : ∀ h, Dropped (past ++ [(call, answer)]) h ↔ Dropped past h := fun h =>
    dropped_concat_iff.trans (or_iff_left (hdrop h))
  refine ⟨fun h => ?_, fun h => ?_, fun h => ?_⟩
  · rw [hmade, hsame]
    exact ht.made h
  · rw [hdropped, hsame]
    exact ht.dropped h
  · rw [Alive, hmade, hdropped, isAlive, hsame]
    exact ht.alive h

/-- **Every call keeps what is told about the handles.** -/
theorem TellsHandles.step (ht : TellsHandles past s) {call : Call} {answer : Answer}
    (hp : Performed s call answer s') : TellsHandles (past ++ [(call, answer)]) s' := by
  cases hp with
  | @clone h halive =>
    have hmade : ∀ g, Made (past ++ [(.clone h, .number s.handles.length)]) g
        ↔ Made past g ∨ g = s.handles.length := by
      simp [made_concat_iff, eq_comm]
    have hdropped : ∀ g, Dropped (past ++ [(.clone h, .number s.handles.length)]) g ↔ Dropped past g := by
      simp [dropped_concat_iff]
    have hlength : s.clone.handles.length = s.handles.length + 1 := List.length_append
    refine ⟨fun g => ?_, fun g hg => ?_, fun g => ?_⟩
    · rw [hmade, ht.made, hlength]
      omega
    · have := ht.dropped g ((hdropped g).mp hg)
      omega
    · rw [Alive, hmade, hdropped, isAlive_clone]
      by_cases hg : g = s.handles.length
      · -- the number of the new handle is that of none before it
        have hnew : ¬ Dropped past g := fun hold => absurd (ht.dropped g hold) (by omega)
        simp [hg ▸ hnew, hg]
      · rw [if_neg hg, or_iff_left hg]
        exact ht.alive g
  | @drop h halive =>
    have hmade : ∀ g, Made (past ++ [(.drop h, .done)]) g ↔ Made past g := by simp [made_concat_iff]
    have hdropped : ∀ g, Dropped (past ++ [(.drop h, .done)]) g ↔ Dropped past g ∨ g = h := by
      simp [dropped_concat_iff, eq_comm]
    have hlength : (s.drop h).handles.length = s.handles.length := List.length_set
    refine ⟨fun g => ?_, fun g hg => ?_, fun g => ?_⟩
    · rw [hmade, ht.made, hlength]
    · rw [hlength]
      rcases (hdropped g).mp hg with hold | rfl
      · exact ht.dropped g hold
      · exact lt_length_of_isAlive halive
    · rw [Alive, hmade, hdropped, isAlive_drop]
      by_cases hg : g = h
      · simp [hg]
      · rw [if_neg hg, or_iff_left hg]
        exact ht.alive g
  | trigger => exact ht.idle (by simp) (by simp) handles_trigger.1
  | signalled | count | ready | pending | dropFuture => exact ht.idle (by simp) (by simp) rfl
  | gone => exact ht.idle (by simp) (by simp) rfl

/-- A call that neither makes nor ends a future keeps what is told about them, if it does so for the signals. -/
theorem TellsFutures.quiet (ht : TellsFutures past s) {call : Call} {answer : Answer}
    (hsignalled : ∀ h n, (call, answer) ≠ (.signalled h, .number n))
    (hpoll : ∀ f, (call, answer) ≠ (.poll f, .ready)) (hdrop : ∀ f, (call, answer) ≠ (.dropFuture f, .done))
    (hsame : s'.futures = s.futures)
    (hsent : ∀ f p, s.position? f = some p →
      p ≤ s'.sent ∧ (SentSince (past ++ [(call, answer)]) f ↔ p < s'.sent)) :
    TellsFutures (past ++ [(call, answer)]) s' := by
  have hobtained : ∀ f, Obtained (past ++ [(call, answer)]) f ↔ Obtained past f := fun f =>
    obtained_concat_iff.trans (or_iff_left fun ⟨h, heq⟩ => hsignalled h f heq)
  have hended : ∀ f, Ended (past ++ [(call, answer)]) f ↔ Ended past f := fun f =>
    ended_concat_iff.trans (or_iff_left (not_or.mpr ⟨hpoll f, hdrop f⟩))
  refine ⟨fun f => ?_, fun f => ?_, fun f => ?_, fun f p hp => hsent f p ?_⟩
  · rw [hobtained, hsame]
    exact ht.obtained f
  · rw [hended, hsame]
    exact ht.ended f
  · rw [Waits, hobtained, hended, position?, hsame]
    exact ht.waits f
  · rwa [position?, hsame] at hp

/-- A call that does nothing to a future and sends nothing changes nothing about them. -/
theorem TellsFutures.idle (ht : TellsFutures past s) {call : Call} {answer : Answer}
    (hsignalled : ∀ h n, (call, answer) ≠ (.signalled h, .number n))
    (hpoll : ∀ f, (call, answer) ≠ (.poll f, .ready)) (hdrop : ∀ f, (call, answer) ≠ (.dropFuture f, .done))
    (htrigger : ∀ h, (call, answer) ≠ (.trigger h, .done))
    (hsame : s'.futures = s.futures) (hsent : s'.sent = s.sent) :
    TellsFutures (past ++ [(call, answer)]) s' := by
  refine ht.quiet hsignalled hpoll hdrop hsame fun f p hp => ?_
  rw [hsent, sentSince_concat_iff, or_iff_left fun ⟨_, h, heq⟩ => htrigger h heq]
  exact ht.sent f p hp

/-- A call that ends a future keeps what is told about the others. -/
theorem TellsFutures.ending (ht : TellsFutures past s) {call : Call} {answer : Answer} {f p : Nat}
    (hposition : s.position? f = some p)
    (hend : (call, answer) = (.poll f, .ready) ∨ (call, answer) = (.dropFuture f, .done)) :
    TellsFutures (past ++ [(call, answer)]) (s.dropFuture f) := by
  have hobtained : ∀ g, Obtained (past ++ [(call, answer)]) g ↔ Obtained past g := by
    intro g
    rcases hend with heq | heq
    · simp [obtained_concat_iff, heq]
    · simp [obtained_concat_iff, heq]
  have hended : ∀ g, Ended (past ++ [(call, answer)]) g ↔ Ended past g ∨ g = f := by
    intro g
    rcases hend with heq | heq
    · simp [ended_concat_iff, heq, eq_comm]
    · simp [ended_concat_iff, heq, eq_comm]
  have hsent : ∀ g, SentSince (past ++ [(call, answer)]) g ↔ SentSince past g := by
    intro g
    rcases hend with heq | heq
    · simp [sentSince_concat_iff, heq]
    · simp [sentSince_concat_iff, heq]
  have hlength : (s.dropFuture f).futures.length = s.futures.length := List.length_set
  refine ⟨fun g => ?_, fun g hg => ?_, fun g => ?_, fun g q hq => ?_⟩
  · rw [hobtained, hlength]
    exact ht.obtained g
  · rw [hlength]
    rcases (hended g).mp hg with hold | rfl
    · exact ht.ended g hold
    · exact lt_length_of_position? hposition
  · rw [Waits, hobtained, hended, position?_dropFuture]
    by_cases hg : g = f
    · simp [hg]
    · rw [if_neg hg, or_iff_left hg]
      exact ht.waits g
  · rw [position?_dropFuture] at hq
    by_cases hg : g = f
    · rw [if_pos hg] at hq
      cases hq
    · rw [if_neg hg] at hq
      rw [hsent]
      exact ht.sent g q hq

/-- **Every call keeps what is told about the futures.** -/
theorem TellsFutures.step (ht : TellsFutures past s) {call : Call} {answer : Answer}
    (hp : Performed s call answer s') : TellsFutures (past ++ [(call, answer)]) s' := by
  cases hp with
  | @signalled h halive =>
    have hobtained : ∀ g, Obtained (past ++ [(.signalled h, .number s.futures.length)]) g
        ↔ Obtained past g ∨ g = s.futures.length := by
      simp [obtained_concat_iff, eq_comm]
    have hended : ∀ g, Ended (past ++ [(.signalled h, .number s.futures.length)]) g ↔ Ended past g := by
      simp [ended_concat_iff]
    have hsent : ∀ g, SentSince (past ++ [(.signalled h, .number s.futures.length)]) g ↔ SentSince past g := by
      simp [sentSince_concat_iff]
    have hlength : s.subscribe.futures.length = s.futures.length + 1 := List.length_append
    -- the number of the new future is that of none before it
    have hnew : ¬ Obtained past s.futures.length := fun hold => absurd ((ht.obtained _).mp hold) (by omega)
    refine ⟨fun g => ?_, fun g hg => ?_, fun g => ?_, fun g q hq => ?_⟩
    · rw [hobtained, ht.obtained, hlength]
      omega
    · have := ht.ended g ((hended g).mp hg)
      omega
    · rw [Waits, hobtained, hended, position?_subscribe]
      by_cases hg : g = s.futures.length
      · have hthere : ¬ Ended past g := fun hold => absurd (ht.ended g hold) (by omega)
        simp [hg ▸ hthere, hg]
      · rw [if_neg hg, or_iff_left hg]
        exact ht.waits g
    · rw [position?_subscribe] at hq
      rw [hsent]
      by_cases hg : g = s.futures.length
      · rw [if_pos hg] at hq
        cases hq
        exact ⟨Nat.le_refl _, iff_of_false (fun hold => hnew (hg ▸ hold.obtained)) (Nat.lt_irrefl _)⟩
      · rw [if_neg hg] at hq
        exact ht.sent g q hq
  | @trigger h halive =>
    -- without anybody waiting nothing is sent, but then there is no future to tell about
    refine ht.quiet (by simp) (by simp) (by simp) handles_trigger.2 fun f p hposition => ?_
    have hobtained : Obtained past f := ((ht.waits f).mpr ⟨p, hposition⟩).1
    have hle := (ht.sent f p hposition).1
    rw [sent_trigger hposition, sentSince_concat_iff]
    exact ⟨by omega, iff_of_true (Or.inr ⟨hobtained, h, rfl⟩) (by omega)⟩
  | ready hposition => exact ht.ending hposition (Or.inl rfl)
  | dropFuture hposition => exact ht.ending hposition (Or.inr rfl)
  | count | clone | drop | pending => exact ht.idle (by simp) (by simp) (by simp) (by simp) rfl rfl
  | gone => exact ht.idle (by simp) (by simp) (by simp) (by simp) rfl rfl

/-! ## After any calls -/

/-- One call more is performed on what the calls before have left. -/
theorem run_concat (calls : List Call) (call : Call) :
    run (calls ++ [call]) = ((run calls).1 ++ [(call, ((run calls).2.perform call).1)],
      ((run calls).2.perform call).2) := by
  rw [run, List.foldl_append]
  rfl

/-- The calls so far are those that were made. -/
theorem map_fst_run (calls : List Call) : (run calls).1.map Prod.fst = calls := by
  induction calls using List.reverseRecOn with
  | nil => rfl
  | append_singleton calls call ih => rw [run_concat, List.map_append, ih, List.map_singleton]

/-- **After any calls their answers tell what there is to know about the channel.** -/
theorem tells_run (calls : List Call) :
    TellsHandles (run calls).1 (run calls).2 ∧ TellsFutures (run calls).1 (run calls).2 := by
  induction calls using List.reverseRecOn with
  | nil => exact ⟨tellsHandles_new, tellsFutures_new⟩
  | append_singleton calls call ih =>
    rw [run_concat]
    have hp := performed_perform (run calls).2 call
    exact ⟨ih.1.step hp, ih.2.step hp⟩

/-- As many futures wait as there are numbers of futures with a position. -/
theorem receiverCount_eq (s : Shutdown) : s.receiverCount =
    ((List.range s.futures.length).filter fun f => (s.position? f).isSome).length := by
  have hfutures : s.futures = (List.range s.futures.length).map s.position? := by
    refine List.ext_getElem (by simp) fun f hf hf' => ?_
    rw [List.getElem_map, List.getElem_range, position?, List.getD_eq_getElem _ _ hf]
  calc s.receiverCount = ((List.range s.futures.length).map s.position?).countP Option.isSome := by
        rw [receiverCount, ← hfutures]
    _ = (List.range s.futures.length).countP fun f => (s.position? f).isSome := List.countP_map
    _ = _ := List.countP_eq_length_filter

/-- A future that is there is ready unless nothing has come for it. -/
theorem perform_poll {f p : Nat} (hposition : s.position? f = some p) :
    (s.perform (.poll f)).1 = if s.receive p = .empty then .pending else .ready := by
  rw [position?] at hposition
  simp only [perform, hposition]
  split
  · rfl
  · rfl

/-- **What a handle that is there is good for**: triggering, counting, and futures. -/
theorem perform_of_alive {h : Nat} (halive : s.isAlive h = true) :
    (s.perform (.trigger h)).1 = .done ∧ (s.perform (.count h)).1 = .number s.receiverCount ∧
      (s.perform (.signalled h)).1 = .number s.futures.length := by
  simp only [perform, onHandle, if_pos halive, and_self]

/-- **A future is ready just if a signal was sent since it was obtained.**  This is so after any calls, while
    some handle is alive: however many signals there were, through whichever handles, and whatever became of
    the other futures.  A signal can always be sent.  The count is the number of the futures that were obtained
    and neither polled to their end nor dropped, and a new future is another one than all before. -/
theorem signals_reach_later_polls (calls : List Call) :
    (run calls).1.map Prod.fst = calls ∧
    (∀ h f, Alive (run calls).1 h → Waits (run calls).1 f →
      (((run calls).2.perform (.poll f)).1 = .ready ↔ SentSince (run calls).1 f) ∧
      (((run calls).2.perform (.poll f)).1 = .pending ↔ ¬ SentSince (run calls).1 f)) ∧
    (∀ h, Alive (run calls).1 h → ((run calls).2.perform (.trigger h)).1 = .done ∧
      (∃ fs : List Nat, fs.Nodup ∧ (∀ f, f ∈ fs ↔ Waits (run calls).1 f) ∧
        ((run calls).2.perform (.count h)).1 = .number fs.length) ∧
      ∃ f, ¬ Obtained (run calls).1 f ∧ ((run calls).2.perform (.signalled h)).1 = .number f) := by
  obtain ⟨hhandles, hfutures⟩ := tells_run calls
  refine ⟨map_fst_run calls, fun h f halive hwaits => ?_, fun h halive => ?_⟩
  · obtain ⟨p, hposition⟩ := (hfutures.waits f).mp hwaits
    have hempty : (run calls).2.receive p = .empty ↔ ¬ SentSince (run calls).1 f := by
      rw [receive_eq_empty_iff ((hhandles.alive h).mp halive), (hfutures.sent f p hposition).2,
        Nat.not_lt]
    rw [perform_poll hposition]
    by_cases hsent : SentSince (run calls).1 f
    · rw [if_neg (fun hnone => hempty.mp hnone hsent)]
      exact ⟨iff_of_true rfl hsent, iff_of_false nofun (not_not_intro hsent)⟩
    · rw [if_pos (hempty.mpr hsent)]
      exact ⟨iff_of_false nofun hsent, iff_of_true rfl hsent⟩
  · obtain ⟨htrigger, hcount, hsignalled⟩ := perform_of_alive ((hhandles.alive h).mp halive)
    refine ⟨htrigger, ⟨_, List.nodup_range.filter _, fun f => ?_, hcount.trans (by rw [receiverCount_eq])⟩,
      (run calls).2.futures.length, ?_, hsignalled⟩
    · rw [List.mem_filter, List.mem_range, hfutures.waits, Option.isSome_iff_exists]
      exact and_iff_right_of_imp fun ⟨p, hposition⟩ => lt_length_of_position? hposition
    · rw [hfutures.obtained]
      exact Nat.lt_irrefl _

/-- Two signals through two handles overtake the first future; the second one is obtained after them. -/
theorem signals_reach_later_polls_overtaken :
    let calls : List Call :=
      [.clone 0, .signalled 0, .trigger 1, .trigger 0, .drop 0, .signalled 1]
    Alive (run calls).1 1 ∧ Waits (run calls).1 0 ∧ Waits (run calls).1 1 ∧
      ((run calls).2.perform (.poll 0)).1 = .ready ∧ ((run calls).2.perform (.poll 1)).1 = .pending ∧
      ((run calls).2.perform (.trigger 1)).1 = .done := by
  intro calls
  have hpast : (run calls).1 = [(.clone 0, .number 1), (.signalled 0, .number 0), (.trigger 1, .done),
      (.trigger 0, .done), (.drop 0, .done), (.signalled 1, .number 1)] := by decide
  have halive : Alive (run calls).1 1 := by simp [Alive, Made, Dropped, hpast]
  have hfirst : Waits (run calls).1 0 := by simp [Waits, Obtained, Ended, hpast]
  have hsecond : Waits (run calls).1 1 := by simp [Waits, Obtained, Ended, hpast]
  have hsent : SentSince (run calls).1 0 := by
    rw [hpast]
    exact ⟨[_], _, 0, 1, rfl, List.mem_cons_self⟩
  have hunsent : ¬ SentSince (run calls).1 1 := by
    rintro ⟨before, after, h, h', heq, hmem⟩
    simp only [hpast, List.cons_eq_append_iff] at heq
    simp_all
  obtain ⟨-, hpoll, hhandle⟩ := signals_reach_later_polls calls
  exact ⟨halive, hfirst, hsecond, (hpoll 1 0 halive hfirst).1.mpr hsent,
    (hpoll 1 1 halive hsecond).2.mpr hunsent, (hhandle 1 halive).1⟩

end Switchyard.Shutdown
