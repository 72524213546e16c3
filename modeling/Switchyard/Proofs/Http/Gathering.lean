import Switchyard.Proofs.NoEscape

/-!
  A body counts for its bytes, and not for the pieces in which it arrives.

  What a stream comes to is told by the bytes of its pieces in a row (`bodyOf`) and by whether an item
  among them is an error (`Fails`).  The stream breaks at its first item that is an error or makes the body
  too long (`Breaks`).

  The main statement is `handle_by_body`: a service answers a stream that breaks by itself, and any other
  by dispatching the body.  It is put together from

  * `gather_append` — gathering up to any place, if nothing before it breaks the stream;
  * `fits_or_breaks` — a stream fits, or it breaks, by going along its items with what came before them;
  * `gather_eq_ok_iff`, `gather_eq_error_iff` — what gathering comes to.
-/

namespace Switchyard.Http

/-! ## What is in a stream -/

/-- The bytes of an item. -/
def bytesOf : Chunk → Bytes
  | .ok bytes => bytes
  | .error _ => []

/-- The bytes of a stream, in a row. -/
def bodyOf (chunks : List Chunk) : Bytes := chunks.flatMap bytesOf

/-- An item of the stream is an error. -/
def Fails (chunks : List Chunk) : Prop := ∃ e, .error e ∈ chunks

/-- The stream cannot be gathered: an item is an error, or the bytes are too many. -/
def Spoiled (limit : Nat) (chunks : List Chunk) : Prop :=
  Fails chunks ∨ limit < (bodyOf chunks).length

/-- The stream breaks, for this reason, at its first item that is an error or makes the body too long. -/
inductive Breaks (limit : Nat) : List Chunk → String → Prop where
  | failed {before : List Chunk} {e : String} {after : List Chunk} (hgood : ¬ Fails before)
      (hfits : (bodyOf before).length ≤ limit) : Breaks limit (before ++ .error e :: after) e
  | tooLong {before : List Chunk} {bytes : Bytes} {after : List Chunk} (hgood : ¬ Fails before)
      (hfits : (bodyOf before).length ≤ limit) (hlong : limit < (bodyOf before).length + bytes.length) :
      Breaks limit (before ++ .ok bytes :: after) tooLongText

@[simp] theorem bodyOf_nil : bodyOf [] = [] := rfl

@[simp] theorem bodyOf_ok (bytes : Bytes) (chunks : List Chunk) :
    bodyOf (.ok bytes :: chunks) = bytes ++ bodyOf chunks := rfl

@[simp] theorem bodyOf_append (chunks rest : List Chunk) :
    bodyOf (chunks ++ rest) = bodyOf chunks ++ bodyOf rest := List.flatMap_append

@[simp] theorem not_fails_nil : ¬ Fails [] := fun ⟨_, h⟩ => absurd h List.not_mem_nil

@[simp] theorem fails_error (e : String) (chunks : List Chunk) : Fails (.error e :: chunks) :=
  ⟨e, List.mem_cons_self⟩

@[simp] theorem fails_ok_iff {bytes : Bytes} {chunks : List Chunk} :
    Fails (.ok bytes :: chunks) ↔ Fails chunks := by
  simp [Fails]

@[simp] theorem fails_append_iff {chunks rest : List Chunk} :
    Fails (chunks ++ rest) ↔ Fails chunks ∨ Fails rest := by
  simp only [Fails, List.mem_append, exists_or]

theorem not_spoiled_iff {limit : Nat} {chunks : List Chunk} :
    ¬ Spoiled limit chunks ↔ ¬ Fails chunks ∧ (bodyOf chunks).length ≤ limit := by
  rw [Spoiled, not_or, Nat.not_lt]

/-! ## Gathering -/

section Gathering

variable {limit : Nat} {chunks : List Chunk}

/-- Gathering up to a place, if nothing before it breaks the stream. -/
theorem gather_append (rest : List Chunk) (hgood : ¬ Fails chunks)
    (hfits : (bodyOf chunks).length ≤ limit) :
    gather limit (chunks ++ rest)
      = (gather (limit - (bodyOf chunks).length) rest).map (bodyOf chunks ++ ·) := by
  induction chunks generalizing limit with
  | nil =>
    show gather limit rest = (gather limit rest).map id
    cases gather limit rest <;> rfl
  | cons chunk chunks ih =>
    cases chunk with
    | error e => exact absurd (fails_error e chunks) hgood
    | ok bytes =>
      rw [fails_ok_iff] at hgood
      rw [bodyOf_ok, List.length_append] at hfits ⊢
      have hfirst : ¬ limit < bytes.length := by omega
      have hrest : (bodyOf chunks).length ≤ limit - bytes.length := by omega
      rw [List.cons_append, gather, if_neg hfirst, ih hgood hrest, Nat.sub_sub]
      cases gather (limit - (bytes.length + (bodyOf chunks).length)) rest with
      | error e => rfl
      | ok body => exact congrArg Except.ok (List.append_assoc bytes (bodyOf chunks) body).symm

/-- A stream that fits is gathered. -/
theorem gather_of_not_spoiled (h : ¬ Spoiled limit chunks) :
    gather limit chunks = .ok (bodyOf chunks) := by
  obtain ⟨hgood, hfits⟩ := not_spoiled_iff.mp h
  have happend := gather_append [] hgood hfits
  rw [List.append_nil, gather] at happend
  rw [happend, Except.map, List.append_nil]

/-- Gathering a stream that breaks comes to what breaks it. -/
theorem gather_of_breaks {e : String} (h : Breaks limit chunks e) : gather limit chunks = .error e := by
  cases h with
  | failed hgood hfits =>
    rw [gather_append _ hgood hfits]
    rfl
  | @tooLong before bytes after hgood hfits hlong =>
    have hbytes : limit - (bodyOf before).length < bytes.length := by omega
    rw [gather_append _ hgood hfits, gather, if_pos hbytes]
    rfl

/-- What is still to come fits, or it breaks the stream.  The total of what came before is carried along. -/
theorem fits_or_breaks_append {before : List Chunk} (hgood : ¬ Fails before)
    (hfits : (bodyOf before).length ≤ limit) :
    ¬ Spoiled limit (before ++ chunks) ∨ ∃ e, Breaks limit (before ++ chunks) e := by
  induction chunks generalizing before with
  | nil =>
    rw [List.append_nil]
    exact Or.inl (not_spoiled_iff.mpr ⟨hgood, hfits⟩)
  | cons chunk chunks ih =>
    cases chunk with
    | error e => exact Or.inr ⟨e, .failed hgood hfits⟩
    | ok bytes =>
      by_cases hlong : limit < (bodyOf before).length + bytes.length
      · exact Or.inr ⟨tooLongText, .tooLong hgood hfits hlong⟩
      · have hgood' : ¬ Fails (before ++ [.ok bytes]) := by simpa using hgood
        have hfits' : (bodyOf (before ++ [.ok bytes])).length ≤ limit := by simpa using hlong
        have hsplit : before ++ .ok bytes :: chunks = before ++ [.ok bytes] ++ chunks := by simp
        rw [hsplit]
        exact ih hgood' hfits'

/-- **A stream fits, or it breaks.** -/
theorem fits_or_breaks (limit : Nat) (chunks : List Chunk) :
    ¬ Spoiled limit chunks ∨ ∃ e, Breaks limit chunks e :=
  fits_or_breaks_append not_fails_nil (Nat.zero_le limit)

theorem Breaks.spoiled {e : String} (h : Breaks limit chunks e) : Spoiled limit chunks := by
  refine Classical.byContradiction fun hnot => ?_
  have hok := gather_of_not_spoiled hnot
  rw [gather_of_breaks h] at hok
  nomatch hok

/-- A stream that cannot be gathered breaks somewhere. -/
theorem Spoiled.breaks (h : Spoiled limit chunks) : ∃ e, Breaks limit chunks e :=
  (fits_or_breaks limit chunks).resolve_left fun hnot => hnot h

/-- **Gathering succeeds with the bytes of the stream**, if no item is an error and they are not too
    many. -/
theorem gather_eq_ok_iff {body : Bytes} :
    gather limit chunks = .ok body ↔ ¬ Spoiled limit chunks ∧ body = bodyOf chunks := by
  constructor
  · intro hok
    rcases fits_or_breaks limit chunks with hnot | ⟨e, hbreaks⟩
    · rw [gather_of_not_spoiled hnot] at hok
      exact ⟨hnot, (Except.ok.inj hok).symm⟩
    · rw [gather_of_breaks hbreaks] at hok
      nomatch hok
  · rintro ⟨hnot, rfl⟩
    exact gather_of_not_spoiled hnot

/-- As many bytes as the limit, with an empty piece among the pieces. -/
example : gather 3 [.ok [1, 2], .ok [], .ok [3]] = .ok [1, 2, 3] := rfl

/-- **Gathering fails with what breaks the stream.** -/
theorem gather_eq_error_iff {e : String} : gather limit chunks = .error e ↔ Breaks limit chunks e := by
  refine ⟨fun herror => ?_, gather_of_breaks⟩
  rcases fits_or_breaks limit chunks with hnot | ⟨e', hbreaks⟩
  · rw [gather_of_not_spoiled hnot] at herror
    nomatch herror
  · rw [gather_of_breaks hbreaks] at herror
    exact Except.error.inj herror ▸ hbreaks

/-- Without an error among the items the bytes decide. -/
theorem gather_of_good (hgood : ¬ Fails chunks) :
    gather limit chunks
      = if limit < (bodyOf chunks).length then .error tooLongText else .ok (bodyOf chunks) := by
  split
  · rename_i hlong
    obtain ⟨e, hbreaks⟩ := Spoiled.breaks (Or.inr hlong)
    rw [gather_of_breaks hbreaks]
    cases hbreaks with
    | failed => exact absurd (fails_append_iff.mpr (Or.inr (fails_error _ _))) hgood
    | tooLong => rfl
  · rename_i hfits
    exact gather_of_not_spoiled (not_spoiled_iff.mpr ⟨hgood, Nat.not_lt.mp hfits⟩)

end Gathering

/-! ## The service -/

namespace Service

variable {σ : Type}

/-- What is told of a body that cannot be gathered. -/
def rejection (limit : Nat) (e : String) : Observation :=
  .event ⟨.warn, "Failed to buffer request body", [("error", .text e), ("limit", .count limit)]⟩

/-- Nothing is done with a stream that breaks but to tell of it. -/
theorem handle_of_breaks {s : Service σ} {chunks : List Chunk} {e : String}
    (h : Breaks s.bodyLimit chunks e) (head : Request) :
    s.handle head chunks = .note (rejection s.bodyLimit e) (.done tooLarge) := by
  rw [handle, gather_eq_error_iff.mpr h]
  rfl

/-- The body of a stream that fits is dispatched. -/
theorem handle_of_not_spoiled {s : Service σ} {chunks : List Chunk} (h : ¬ Spoiled s.bodyLimit chunks)
    (head : Request) :
    s.handle head chunks
      = (s.router.dispatch { interface := s.interface } { head with body := bodyOf chunks }).bind
          respond := by
  rw [handle, gather_eq_ok_iff.mpr ⟨h, rfl⟩]
  rfl

/-- What dispatching came to is responded to as it is: a reply with itself, and a refusal with its message. -/
theorem respond_ok (rep : Response) : (respond (.ok rep) : Flow σ Empty Empty Response) = .done rep := rfl

theorem respond_of_isNotFound {e : DispatchError} (h : e.isNotFound = true) :
    (respond (.error e) : Flow σ Empty Empty Response) = .done (.error 404 e.message) := if_pos h

/-- **A body counts for its bytes**, whatever the router, the interface and the limit are.

    * A stream with an item that is an error, or with too many bytes, breaks at some item.  Every run of
      the service then tells of that and comes to the response for it, and does nothing else: no route is
      looked up, no filter and no callback runs, nothing is counted and no copy is sent.
    * Any other stream is answered by dispatching its bytes on the interface of the service; these may be
      as many as the limit.  The response is the reply that this comes to, or the refusal.
    * Two streams with the same bytes, neither with an error, are handled alike. -/
theorem handle_by_body (s : Service σ) (head : Request) (chunks : List Chunk) :
    (Spoiled s.bodyLimit chunks ↔ ∃ e, Breaks s.bodyLimit chunks e) ∧
    (∀ e, Breaks s.bodyLimit chunks e →
      s.handle head chunks = .note (rejection s.bodyLimit e) (.done tooLarge) ∧
      ∀ acts rep, Prog.Run (s.handle head chunks) acts (some rep) ↔
        acts = [.noted (rejection s.bodyLimit e)] ∧ rep = tooLarge) ∧
    (¬ Spoiled s.bodyLimit chunks →
      s.handle head chunks
        = (s.router.dispatch { interface := s.interface } { head with body := bodyOf chunks }).bind
            respond ∧
      (∀ rep, (respond (.ok rep) : Flow σ Empty Empty Response) = .done rep) ∧
      ∀ e : DispatchError, e.isNotFound = true →
        (respond (.error e) : Flow σ Empty Empty Response) = .done (.error 404 e.message)) ∧
    ∀ chunks', ¬ Fails chunks → ¬ Fails chunks' → bodyOf chunks' = bodyOf chunks →
      s.handle head chunks' = s.handle head chunks := by
  refine ⟨⟨Spoiled.breaks, fun ⟨_, hbreaks⟩ => hbreaks.spoiled⟩, fun e hbreaks => ?_,
    fun hnot => ⟨handle_of_not_spoiled hnot head, respond_ok, fun _ => respond_of_isNotFound⟩, ?_⟩
  · have hhandle := handle_of_breaks hbreaks head
    refine ⟨hhandle, fun acts rep => ?_⟩
    rw [hhandle]
    constructor
    · intro hrun
      rcases Prog.runs_note_iff.mp hrun with ⟨-, hstop⟩ | ⟨acts', hdone, rfl⟩
      · nomatch hstop
      · obtain ⟨rfl, hstop | hrep⟩ := Prog.runs_done_iff.mp hdone
        · nomatch hstop
        · exact ⟨rfl, Option.some.inj hrep⟩
    · rintro ⟨rfl, rfl⟩
      exact .note (.done _)
  · intro chunks' hgood hgood' hbody
    rw [handle, handle, gather_of_good hgood, gather_of_good hgood', hbody]

end Service

end Switchyard.Http
