import WireShadow.Generation

namespace WireShadow.Pass

variable {α β : Type}

theorem bind_ok {x : Pass α} {f : α → Pass β} {t t' : Token} {a : α} (h : x t = (.ok a, t')) :
    (x >>= f) t = f a t' := by
  change ExceptT.bindCont f (x t).1 (x t).2 = _
  rw [h]
  rfl

theorem bind_error {x : Pass α} {f : α → Pass β} {t t' : Token} {e : Failure}
    (h : x t = (.error e, t')) : (x >>= f) t = (.error e, t') := by
  change ExceptT.bindCont f (x t).1 (x t).2 = _
  rw [h]
  rfl

theorem checkpoints_never (items : List α) : checkpoints items .never = (.ok (), .never) := by
  induction items with
  | nil => rfl
  | cons item items ih => exact (bind_ok rfl).trans ih

end WireShadow.Pass
