import Switchyard.Proofs.Dark.Traffic
import Switchyard.Proofs.Program.Sessions

/-!
  What the job of a dark call does.

  A filter that issues a call starts a job, and from then on has nothing more to do with it.  So what is said
  of the filter (that it starts one job for each request that it samples, with a copy of the request) says
  nothing of the copy until it is said what the job does with it.

  A job makes a call (`Call.MadeBy`) if the client of the filter is given the copy and may act on it for as
  long as the filter lets it, and if what comes of that is counted for the filter.  This is said in three
  parts, since a job that does nothing, one that never lets its client act, and one that waits for a client
  that never answers each satisfy two of them:

  * all that the job does, it does in its client's name: what a run of the job that is over has done is what
    a run of the client with the copy has done within its time, and after that the entries by which the call
    is counted, as the client earned it (`Judged`);
  * all that the client does in time, the job does, and then the answer is counted;
  * the job comes to an end, even if its client does not.

  `Call.madeBy_dark` shows it of the job that a filter starts.
-/

namespace Switchyard.Dark

/-- A job makes a call: it hands the copy to the client of the filter, leaves it its time, and counts what
    comes of it. -/
structure Call.MadeBy (c : Call) (job : Job) : Prop where
  /-- The job is one of the filter. -/
  filter : job.filter = c.filter
  /-- What the job has done when it is over is what the client did with the copy within its time, and then the
      entries for the result, which count the call by what the client did. -/
  counts {acts : List (Prog.Action Unit Empty)} : Prog.Run job.body acts (some ()) →
    ∃ sent result, Prog.Run c.bounded sent (some result) ∧ Judged c sent (c.outcome result) ∧
      acts = sent ++ (c.ending result).map .noted
  /-- Whatever the client does with the copy in time, the job does, and counts the answer. -/
  answered {sent : List (Prog.Action Unit Empty)} {answer : Except Error Unit} :
    c.sent.InTime c.limit sent answer →
      Prog.Run job.body (sent ++ (c.ending (some answer)).map .noted) (some ())
  /-- The job comes to an end, whatever the client does. -/
  ends : job.body.Ends

/-- What a call is bounded to, and then what counts it, as a program that leaves entries for its value. -/
theorem Call.dark_eq (c : Call) : c.settings.dark c.copy
    = c.bounded.bind fun result => (Prog.observeAll (c.ending result)).bind fun _ => .done () :=
  congrArg (Prog.bind c.bounded) (funext fun _ => (Prog.bind_done _).symm)

/-- **The job that a filter starts makes the call**, whatever its client is. -/
theorem Call.madeBy_dark (c : Call) : c.MadeBy ⟨c.settings.id, c.settings.dark c.copy⟩ where
  filter := rfl
  counts h := by
    rw [dark_eq] at h
    obtain ⟨result, sent, hsent, hacts, -⟩ := Prog.run_noted_iff.mp h
    exact ⟨sent, result, hsent, judged_of_run hsent, hacts⟩
  answered h := by
    rw [dark_eq]
    exact Prog.run_noted_iff.mpr ⟨_, _, h.run_within, rfl, rfl⟩
  ends := by
    show (c.settings.dark c.copy).Ends
    rw [dark_eq]
    exact Prog.ends_bind (Prog.ends_within c.limit c.sent) fun result =>
      Prog.ends_bind (Prog.ends_observeAll _) fun _ => trivial

end Switchyard.Dark
