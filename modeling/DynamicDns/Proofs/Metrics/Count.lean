import DynamicDns.Metrics.Registry

/-!
# Counts are counts

Taking in an event adds one to what is counted under its own label values, wherever its series stands
among the others, and changes no other count (`count_record`, `durationCount_record`).
-/

namespace DynamicDns.Metrics

def Event.isFor (event : Event) (counter : Counter) (values : List String) : Bool :=
  event.series.1 == counter && String.join event.series.2 == String.join values

def Event.isTimed (kind : String) : Event → Bool
  | .passed other _ _ => other == kind
  | _ => false

namespace Registry

variable {counter counter' : Counter} {values values' : List String}

theorem count_countUp (series : List Series) (durations durations' : List Histogram) :
    (Registry.mk (countUp counter values series) durations).count counter' values' =
      (Registry.mk series durations').count counter' values' +
        if counter == counter' && String.join values == String.join values' then 1 else 0 := by
  induction series with
  | nil => cases h : counter == counter' && String.join values == String.join values' <;>
      simp [countUp, count, Series.isFor, h]
  | cons head rest ih =>
    rw [countUp]
    by_cases hhead : head.isFor counter values
    · -- The series at the head is the one that is counted up.
      have hsame : head.isFor counter' values' =
          (counter == counter' && String.join values == String.join values') := by
        simp only [Series.isFor, Bool.and_eq_true, beq_iff_eq] at hhead ⊢
        rw [hhead.1, hhead.2]
      rw [if_pos hhead, ← hsame]
      have hupdated : Series.isFor { head with count := head.count + 1 } counter' values' =
          head.isFor counter' values' := rfl
      cases h : head.isFor counter' values' <;>
        simp [count, hupdated, h]
    · rw [if_neg hhead]
      cases h : head.isFor counter' values' with
      | false => simpa [count, List.find?_cons, h] using ih
      | true =>
        have hother : ¬(counter == counter' && String.join values == String.join values') := by
          intro hboth
          simp only [Series.isFor, Bool.and_eq_true, beq_iff_eq] at hhead h hboth
          exact hhead ⟨h.1.trans hboth.1.symm, h.2.trans hboth.2.symm⟩
        simp [count, h, hother]

theorem count_record (registry : Registry) (event : Event) (counter : Counter)
    (values : List String) :
    (registry.record event).count counter values =
      registry.count counter values + if event.isFor counter values then 1 else 0 := by
  cases event <;> exact count_countUp registry.series _ _

theorem durationCount_observe (series series' : List Series) (durations : List Histogram)
    (kind kind' : String) (duration : Nat) :
    (Registry.mk series (observe kind duration durations)).durationCount kind' =
      (Registry.mk series' durations).durationCount kind' + if kind == kind' then 1 else 0 := by
  induction durations with
  | nil => cases h : kind == kind' <;>
      simp [observe, durationCount, Histogram.observe, Histogram.empty, h]
  | cons head rest ih =>
    rw [observe]
    by_cases hhead : head.kind = kind
    · subst hhead
      cases h : head.kind == kind' <;>
        simp [durationCount, Histogram.observe, h]
    · rw [if_neg hhead]
      cases h : head.kind == kind' with
      | false => simpa [durationCount, List.find?_cons, h] using ih
      | true =>
        have hother : (kind == kind') = false := by
          simp only [beq_iff_eq, beq_eq_false_iff_ne] at h ⊢
          exact fun hsame => hhead (h.trans hsame.symm)
        simp [durationCount, h, hother]

theorem durationCount_record (registry : Registry) (event : Event) (kind : String) :
    (registry.record event).durationCount kind =
      registry.durationCount kind + if event.isTimed kind then 1 else 0 := by
  cases event with
  | passed other success duration => exact durationCount_observe _ registry.series _ _ _ _
  | failed | addressPushed | message => rfl

end Registry

end DynamicDns.Metrics
