/-!
Comparing and subtracting doubles, by the numbers they are unpacked to.
-/

namespace ResponsiveMarkup.Doubles

open Float.Model Float.Model.UnpackedFloat

theorem lt_iff (x y : Float) : x < y ↔ UnpackedFloat.lt x.toModel.unpack y.toModel.unpack = true := decide_eq_true_iff

theorem unpack_zero : (0 : Float).toModel.unpack = .zero .positive := by rfl

/-- What lies below zero does not lie above it. -/
theorem not_pos_of_neg {x : Float} (h : x < 0) : ¬ 0 < x := by
  rw [lt_iff, unpack_zero] at h ⊢
  generalize x.toModel.unpack = u at h ⊢
  cases u with
  | notANumber => cases h
  | infinity s =>
    cases s with
    | positive => cases h
    | negative => exact Bool.false_ne_true
  | zero s => cases h
  | finite s m e hm =>
    cases s with
    | positive => cases h
    | negative => exact Bool.false_ne_true

/-- Nothing that is taken away from what is no number makes it one. -/
theorem isFinite_unpacked_sub {u : UnpackedFloat} (spec : Format) (h : u.isFinite = false) (v : UnpackedFloat) :
    (UnpackedFloat.sub spec u v).isFinite = false := by
  cases u with
  | notANumber => cases v <;> rfl
  | infinity s =>
    cases v with
    | infinity t => cases s <;> cases t <;> rfl
    | _ => rfl
  | zero s => cases h
  | finite s m e hm => cases h

theorem isFinite_pack {u : UnpackedFloat} (h : u.isFinite = false) : (Float.Model.pack u).isFinite = false := by
  cases u with
  | notANumber => decide
  | infinity s => cases s <;> decide
  | zero s => cases h
  | finite s m e hm => cases h

theorem isFinite_sub {x : Float} (h : x.isFinite = false) (y : Float) : (x - y).isFinite = false :=
  isFinite_pack (isFinite_unpacked_sub Format.binary64 h y.toModel.unpack)

end ResponsiveMarkup.Doubles
