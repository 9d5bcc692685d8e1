/-
Module: SakalaAgent.Async.Embedding
Layer: Async (library)
Purpose: A program over one interface as a program over another one: each operation is asked for in the
  words of the other interface, and the answer is read back. What a program keeps to, it keeps to in
  its new surroundings.
Trusted boundary: none
Main exports: Embedding, Prog.embed, Prog.allOps_embed, Prog.warranted_embed
-/
import SakalaAgent.Async.Warranted

namespace Async

/-- How the operations, answers and alarms of one interface are those of another one. -/
structure Embedding (I J : Interface) where
  op : I.Op → J.Op
  answer : (asked : I.Op) → J.Res (op asked) → I.Res asked
  alarm : I.Alarm → J.Alarm

namespace Prog

variable {I J : Interface} {α : Type}

def embed (e : Embedding I J) : Prog I α → Prog J α
  | .ret value => .ret value
  | .call op next => .call (e.op op) fun res => (next (e.answer op res)).embed e
  | .abandon op next => .abandon (e.op op) (next.embed e)
  | .alarm which op fired quiet => .alarm (e.alarm which) (e.op op) (fired.embed e) (quiet.embed e)

variable {e : Embedding I J} {p : Prog I α}

theorem allOps_embed {ok : I.Op → Prop} {ok' : J.Op → Prop} (allowed : ∀ op, ok op → ok' (e.op op))
    (ops : p.AllOps ok) : (p.embed e).AllOps ok' := by
  induction p with
  | ret value => trivial
  | call op next ih => exact ⟨allowed op ops.1, fun res => ih _ (ops.2 _)⟩
  | abandon op next ih => exact ⟨allowed op ops.1, ih ops.2⟩
  | alarm which op fired quiet ihFired ihQuiet => exact ⟨ihFired ops.1, ihQuiet ops.2⟩

/-- What a relation between the histories needs in order to grow with them. -/
structure Embedding.Relates (e : Embedding I J) (R : History I → History J → Prop) : Prop where
  done : ∀ h h' op res, R h h' → R (h ++ [.done op (e.answer op res)]) (h' ++ [.done (e.op op) res])
  abandoned : ∀ h h' op outcome, R h h' →
    R (h ++ [.abandoned op (outcome.map (e.answer op))]) (h' ++ [.abandoned (e.op op) outcome])
  fired : ∀ h h' which op, R h h' →
    R (h ++ [.fired which op]) (h' ++ [.fired (e.alarm which) (e.op op)])

/-- Conditions on the history of a program are conditions on the related histories. -/
theorem warranted_embed {R : History I → History J → Prop} (relates : Embedding.Relates e R)
    {ok : History I → I.Op → Prop} {ok' : History J → J.Op → Prop} {Q : α → History I → Prop}
    (allowed : ∀ h h' op, R h h' → ok h op → ok' h' (e.op op)) {h : History I} {h' : History J}
    (pre : p.Warranted ok Q h) (related : R h h') :
    (p.embed e).Warranted ok' (fun value h' => ∃ h, R h h' ∧ Q value h) h' := by
  induction p generalizing h h' with
  | ret value => exact ⟨h, related, pre⟩
  | call op next ih =>
      exact ⟨allowed h h' op related pre.1, fun res => ih _ (pre.2 _) (relates.done _ _ _ _ related)⟩
  | abandon op next ih =>
      exact ⟨allowed h h' op related pre.1,
        fun outcome => ih (pre.2 _) (relates.abandoned _ _ _ _ related)⟩
  | alarm which op fired quiet ihFired ihQuiet =>
      exact ⟨ihFired pre.1 (relates.fired _ _ _ _ related), ihQuiet pre.2 related⟩

end Prog

end Async
