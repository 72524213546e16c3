import Switchyard.Proofs.Failure.Interleaving

/-!
  Failures inside failures.

  A failure is an error value itself, so it can be wrapped into a failure again, any number of times.  A
  wrapper reads like the error that it wraps and has the cause that this error has (`Fault.source?`), so
  neither the wording nor the chain of causes tells how often an error was wrapped.  The lineage is not
  handed on: it is taken from the kind of an exception, and a wrapper is no exception.

  * `Fault.CausedBy`              — following the causes of an error, one at a time;
  * `Failure.Wraps`               — a failure that was made of an error directly;
  * `Failure.nested`              — a failure with further wrappers around it;
  * `wrappers_are_transparent`    — what is seen of the error through any number of wrappers, and what is not.
-/

namespace Switchyard

/-! ## Causes, one at a time -/

namespace Fault

/-- The direct cause of an error, if it has one. -/
def source? : Fault → Option Fault
  | plain .. | http _ => none
  | caused _ _ _ source => some source
  | wrapped _ inner => inner.source?

/-- The errors that one meets on the way from an error to its cause, from there to the next cause, and so on
    up to an error without any. -/
inductive CausedBy : Fault → List Fault → Prop where
  | nothing {e : Fault} (hnone : e.source? = none) : CausedBy e []
  | cause {e source : Fault} {further : List Fault} (hsource : e.source? = some source)
      (hfurther : CausedBy source further) : CausedBy e (source :: further)

/-- Errors with the same direct cause have the same chain of causes. -/
theorem CausedBy.of_source?_eq {a b : Fault} (h : a.source? = b.source?) {causes : List Fault}
    (ha : a.CausedBy causes) : b.CausedBy causes := by
  cases ha with
  | nothing hnone => exact .nothing (h ▸ hnone)
  | cause hsource hfurther => exact .cause (h ▸ hsource) hfurther

/-- A wrapper has the causes of the error that it wraps. -/
theorem causedBy_wrapped {inner : Fault} {causes : List Fault} (lineage : List Kind)
    (h : inner.CausedBy causes) : (wrapped lineage inner).CausedBy causes := by
  have hsame : inner.source? = (wrapped lineage inner).source? := rfl
  exact h.of_source?_eq hsame

theorem causedBy_sources (e : Fault) : e.CausedBy e.sources := by
  induction e with
  | plain kind text debug => exact .nothing rfl
  | caused kind text debug source ih => exact .cause rfl ih
  | http e => exact .nothing rfl
  | wrapped lineage inner ih => exact causedBy_wrapped lineage ih

/-- There is one chain of causes. -/
theorem CausedBy.unique {e : Fault} {causes causes' : List Fault} (h : e.CausedBy causes)
    (h' : e.CausedBy causes') : causes = causes' := by
  induction h generalizing causes' with
  | nothing hnone =>
    cases h' with
    | nothing => rfl
    | cause hsource => cases hnone.symm.trans hsource
  | cause hsource _ ih =>
    cases h' with
    | nothing hnone => cases hnone.symm.trans hsource
    | cause hsource' hfurther' =>
      obtain rfl := Option.some.inj (hsource.symm.trans hsource')
      rw [ih hfurther']

/-- **The sources of an error are what one meets by following its causes.** -/
theorem causedBy_iff {e : Fault} {causes : List Fault} : e.CausedBy causes ↔ causes = e.sources :=
  ⟨fun h => h.unique e.causedBy_sources, fun h => h ▸ e.causedBy_sources⟩

end Fault

/-! ## Wrappers -/

namespace Failure

/-- A failure made of an error directly: with the lineage of its kind if it is an exception, or, whatever it
    is, without any. -/
inductive Wraps (h : Hierarchy) : Fault → Failure → Prop where
  | exception {e : Fault} {k : Kind} (hkind : e.kind? = some k) : Wraps h e (.ofException h k e)
  | http (e : HttpException) : Wraps h (.http e) (.ofHttp e)
  | boxed (e : Fault) : Wraps h e (.ofFault e)

/-- A failure with so many further wrappers around it, each of them without lineage. -/
def nested (f : Failure) : Nat → Failure
  | 0 => f
  | n + 1 => .ofFault (f.nested n).toFault

variable {h : Hierarchy} {e : Fault} {f : Failure}

theorem Wraps.fault_eq (hf : f.Wraps h e) : f.fault = e := by
  cases hf with
  | exception | http | boxed => rfl

/-- Around a failure comes a wrapper with its error value inside. -/
theorem fault_nested_succ (f : Failure) (n : Nat) :
    (f.nested (n + 1)).fault = .wrapped (f.nested n).lineage (f.nested n).fault := rfl

/-- **Any number of wrappers reads like what they are around.** -/
theorem text_nested (f : Failure) (n : Nat) : (f.nested n).text = f.text := by
  induction n with
  | zero => rfl
  | succ n ih =>
    show (f.nested (n + 1)).fault.text = f.text
    rw [fault_nested_succ, ← ih]
    rfl

/-- **Any number of wrappers has the direct cause of what they are around.** -/
theorem source?_nested (f : Failure) (n : Nat) : (f.nested n).fault.source? = f.fault.source? := by
  induction n with
  | zero => rfl
  | succ n ih =>
    rw [fault_nested_succ, ← ih]
    rfl

/-- The causes of a failure as an error value, however often it is wrapped. -/
theorem causedBy_nested_iff (f : Failure) (n : Nat) {causes : List Fault} :
    (f.nested n).toFault.CausedBy causes ↔ f.fault.CausedBy causes := by
  have hsource : (f.nested n).toFault.source? = f.fault.source? := source?_nested f n
  exact ⟨fun h => h.of_source?_eq hsource, fun h => h.of_source?_eq hsource.symm⟩

theorem sources_nested (f : Failure) (n : Nat) : (f.nested n).sources = f.sources := by
  have hcauses : (f.nested n).toFault.CausedBy f.sources :=
    (causedBy_nested_iff f n).mpr f.fault.causedBy_sources
  exact (Fault.causedBy_iff.mp hcauses).symm

/-- The error is found under its kind in the one wrapper around it. -/
theorem Wraps.downcast? (hf : f.Wraps h e) {k : Kind} (hk : e.kind? = some k) :
    f.downcast? k = some e := by
  rw [Failure.downcast?, hf.fault_eq, if_pos hk]

/-- A wrapper around a wrapper hides the kind of the error. -/
theorem downcast?_nested_succ (f : Failure) (n : Nat) (k : Kind) :
    (f.nested (n + 1)).downcast? k = none := by
  have hkind : (f.nested (n + 1)).fault.kind? ≠ some k := by
    rw [fault_nested_succ]
    exact fun hk => nomatch hk
  rw [downcast?, if_neg hkind]

/-- A failure whose outermost wrapper was made without lineage. -/
def IsBoxed (f : Failure) : Prop := ∃ inner, f = .ofFault inner

theorem isBoxed_nested {n : Nat} (houter : 0 < n ∨ f.IsBoxed) : (f.nested n).IsBoxed := by
  cases n with
  | zero => exact houter.resolve_left (Nat.lt_irrefl 0)
  | succ n => exact ⟨(f.nested n).toFault, rfl⟩

/-- A failure without lineage is answered by the default mapper; the cache is neither read nor written. -/
theorem IsBoxed.answered {Rep : Type} (hf : f.IsBoxed) (r : Resolver Rep) (cache : MapperCache Rep) :
    r.mapperFor f = r.default ∧ r.cachedReply cache f = (r.default.reply f, cache) := by
  obtain ⟨inner, rfl⟩ := hf
  have hnone : (ofFault inner).kind? = none := rfl
  exact ⟨mapperFor_of_kind?_eq_none hnone, rfl⟩

end Failure

/-- **Wrappers are transparent, and hide the kind.**

    A failure is made of an error, as an exception of its kind or without lineage, and any number of further
    wrappers is put around it.

    * It reads like the error, and following its causes one meets exactly those of the error.
    * A dispatch that ends with it reads accordingly, and shows the wording of the error followed by those of
      the causes of the error.
    * The error is found under its kind in the innermost wrapper alone; with further ones around nothing is
      found, under no kind, and no status either.
    * If the outermost wrapper is one without lineage, the failure has none, and it is answered by the
      default mapper, with the cache and without it. -/
theorem wrappers_are_transparent {h : Hierarchy} {e : Fault} {f : Failure} (hf : f.Wraps h e) (n : Nat) :
    ((f.nested n).text = e.text ∧ (f.nested n).sources = e.sources ∧
      ∀ causes, (f.nested n).toFault.CausedBy causes ↔ e.CausedBy causes) ∧
    ((DispatchError.unhandled (f.nested n)).message = "unhandled failure: " ++ e.text ∧
      (DispatchError.unhandled (f.nested n)).sources.map Fault.text = e.text :: e.sources.map Fault.text) ∧
    ((n = 0 → ∀ k, e.kind? = some k → (f.nested n).downcast? k = some e) ∧
      (0 < n → (∀ k, (f.nested n).downcast? k = none) ∧ (f.nested n).http? = none)) ∧
    (0 < n ∨ f.IsBoxed → (f.nested n).lineage = [] ∧
      ∀ {Rep : Type} (r : Resolver Rep) (cache : MapperCache Rep), r.mapperFor (f.nested n) = r.default ∧
        r.cachedReply cache (f.nested n) = (r.default.reply (f.nested n), cache)) := by
  have hfault := hf.fault_eq
  have htext : (f.nested n).text = e.text := by
    rw [Failure.text_nested, Failure.text, hfault]
  have hsources : (f.nested n).sources = e.sources := by
    rw [Failure.sources_nested, Failure.sources, hfault]
  refine ⟨⟨htext, hsources, fun causes => ?_⟩, ⟨?_, ?_⟩, ⟨?_, ?_⟩, ?_⟩
  · rw [Failure.causedBy_nested_iff, hfault]
  · exact congrArg ("unhandled failure: " ++ ·) htext
  · have hfirst : (f.nested n).toFault.text = e.text := htext
    rw [DispatchError.sources, List.map_cons, hfirst, hsources]
  · rintro rfl k hk
    exact hf.downcast? hk
  · intro hn
    obtain ⟨m, rfl⟩ := Nat.exists_eq_succ_of_ne_zero (Nat.ne_of_gt hn)
    exact ⟨Failure.downcast?_nested_succ f m, rfl⟩
  · intro houter
    have hboxed := Failure.isBoxed_nested houter
    refine ⟨?_, fun r cache => hboxed.answered r cache⟩
    obtain ⟨inner, hinner⟩ := hboxed
    rw [hinner]
    rfl

/-- An exception with a chain of two causes, in three wrappers; a mapper for its kind is passed over. -/
theorem wrappers_are_transparent_thrice :
    let lag : Kind := ⟨"ReplicaLag"⟩
    let e : Fault := .caused (some lag) "replica lagging" "ReplicaLag"
      (.caused none "timed out" "Elapsed" (.message "no route"))
    let g := (Failure.ofException (fun _ => none) lag e).nested 2
    let r : Resolver String := ⟨[(lag, ⟨fun _ => "lag", fun _ => []⟩)], ⟨fun f => "default: " ++ f.text, fun _ => []⟩⟩
    g.sources.map Fault.text = ["timed out", "no route"] ∧
      (DispatchError.unhandled g).message = "unhandled failure: replica lagging" ∧
      g.downcast? lag = none ∧ g.lineage = [] ∧ r.cachedReply [] g = ("default: replica lagging", []) := by
  intro lag e g r
  have hwraps : (Failure.ofException (fun _ => none) lag e).Wraps (fun _ => none) e := .exception rfl
  obtain ⟨⟨-, hsources, -⟩, ⟨hmessage, -⟩, ⟨-, hhidden⟩, hboxed⟩ := wrappers_are_transparent hwraps 2
  obtain ⟨hlineage, hanswer⟩ := hboxed (Or.inl (by decide))
  refine ⟨?_, hmessage, (hhidden (by decide)).1 lag, hlineage, (hanswer r []).2⟩
  rw [hsources]
  rfl

end Switchyard
