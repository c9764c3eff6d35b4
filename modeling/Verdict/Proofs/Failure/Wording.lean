-- How a failure reads. Main statement: its display is its detail, behind the
-- trimmed body if there is one. White space around the body does not show, and
-- beside the same detail no two trimmed bodies look alike.
import Verdict.Proofs.Evaluation.Outcome
import Verdict.Proofs.Text.Trim

namespace Verdict

open Text (trim IsWhite IsTrimmed)

namespace Failure

/-! ## The two forms of the display -/

theorem display_of_isWhite {f : Failure} (h : IsWhite f.body.toList) : f.display = f.detail :=
  display_of_blank (Text.trim_eq_empty_iff.mpr h)

theorem display_of_not_isWhite {f : Failure} (h : ¬ IsWhite f.body.toList) :
    f.display = trim f.body ++ " (" ++ f.detail ++ ")" := by
  apply display_of_body
  rwa [ne_eq, Text.trim_eq_empty_iff]

theorem display_congr {f g : Failure} (hdetail : g.detail = f.detail)
    (hbody : trim g.body = trim f.body) : g.display = f.display := by
  unfold display
  simp only [hdetail, hbody]

/-- A body that shows makes the display longer than the detail. -/
theorem length_detail_lt {f : Failure} (h : trim f.body ≠ "") :
    f.detail.length < f.display.length := by
  rw [display_of_body h]
  simp only [String.length_append]
  have hopen : " (".length = 2 := rfl
  omega

/-- The body can be read off the display if the detail is known. -/
theorem trim_eq_of_display_eq {f g : Failure} (hdetail : g.detail = f.detail)
    (hdisplay : g.display = f.display) : trim g.body = trim f.body := by
  by_cases hg : trim g.body = ""
  · by_cases hf : trim f.body = ""
    · rw [hg, hf]
    · have hlt := length_detail_lt hf
      rw [← hdisplay, display_of_blank hg, hdetail] at hlt
      omega
  · by_cases hf : trim f.body = ""
    · have hlt := length_detail_lt hg
      rw [hdisplay, display_of_blank hf, hdetail] at hlt
      omega
    · rw [display_of_body hg, display_of_body hf, hdetail] at hdisplay
      simpa [String.append_assoc] using hdisplay

theorem display_eq_iff {f g : Failure} (hdetail : g.detail = f.detail) :
    g.display = f.display ↔ trim g.body = trim f.body :=
  ⟨trim_eq_of_display_eq hdetail, display_congr hdetail⟩

theorem exists_display (f : Failure) : ∃ before after, f.display = before ++ f.detail ++ after := by
  by_cases h : trim f.body = ""
  · refine ⟨"", "", ?_⟩
    simp [display_of_blank h]
  · refine ⟨trim f.body ++ " (", ")", ?_⟩
    rw [display_of_body h]

/-- The detail, word by word. -/
theorem detail_eq (f : Failure) :
    f.detail = "evaluating " ++ f.mode.name ++ ": " ++ f.expression ++
      match f.diagnostic with
      | some (.found _ value) => " => \"" ++ value ++ "\""
      | some (.unavailable _) => " (cannot evaluate as string)"
      | none => "" := by
  unfold detail finding
  rcases f.diagnostic with _ | ⟨probe, value⟩ | probe
  · rfl
  · rfl
  · simp only [String.append_assoc]
    rfl

end Failure

/-- On another occasion with another body the same assertion fails the same way, and
the failure has that body as it is. -/
theorem Evaluator.result_failed_rebodied {C E Q V N : Type} {evaluator : Evaluator E Q}
    {engine : Engine Id C E Q V N} {context : C} {body : String} {f : Failure}
    (h : evaluator.result engine ⟨context, body⟩ = .error (.failed f)) (other : String) :
    evaluator.result engine ⟨context, other⟩ = .error (.failed { f with body := other }) := by
  obtain ⟨spec, hspec, hanswer, rfl⟩ := result_eq_failed_iff.mp h
  exact result_eq_failed_iff.mpr ⟨spec, hspec, hanswer, rfl⟩

/-- The display of a failure is its detail if the body is nothing but white space,
and else the trimmed body with the detail in brackets behind it. The trimmed body is
the one text without white space at its ends that the body is with white space
around it. So such white space does not show, though the failure of an evaluation
keeps it. Of failures with the same detail those and no others look alike that have
the same trimmed body. The detail names the kind of the expression, the expression as
it is and what its probe found, and is always shown whole. -/
theorem a_failure_shows_its_trimmed_body_and_its_detail (f : Failure) :
    (IsWhite f.body.toList → f.display = f.detail) ∧
    (¬ IsWhite f.body.toList → f.display = trim f.body ++ " (" ++ f.detail ++ ")") ∧
    (∀ t, trim f.body = t ↔ IsTrimmed t.toList ∧
      ∃ w w' : String, IsWhite w.toList ∧ IsWhite w'.toList ∧ f.body = w ++ t ++ w') ∧
    (∀ w w' : String, IsWhite w.toList → IsWhite w'.toList →
      ({ f with body := w ++ f.body ++ w' } : Failure).display = f.display) ∧
    (∀ (C E Q V N : Type) (engine : Engine Id C E Q V N) (evaluator : Evaluator E Q) (context : C)
      (body : String), evaluator.result engine ⟨context, body⟩ = .error (.failed f) →
      f.body = body ∧ ∀ w w' : String,
        evaluator.result engine ⟨context, w ++ body ++ w'⟩ =
          .error (.failed { f with body := w ++ body ++ w' })) ∧
    (∀ g : Failure, g.detail = f.detail → (g.display = f.display ↔ trim g.body = trim f.body)) ∧
    (∃ before after, f.display = before ++ f.detail ++ after) ∧
    (f.detail = "evaluating " ++ f.mode.name ++ ": " ++ f.expression ++
      match f.diagnostic with
      | some (.found _ value) => " => \"" ++ value ++ "\""
      | some (.unavailable _) => " (cannot evaluate as string)"
      | none => "") ∧
    (AssertError.failed f).message = f.display := by
  refine ⟨Failure.display_of_isWhite, Failure.display_of_not_isWhite, fun t => Text.trim_eq_iff,
    ?_, ?_, fun g => Failure.display_eq_iff, f.exists_display, f.detail_eq, rfl⟩
  · intro w w' hw hw'
    have hdetail : ({ f with body := w ++ f.body ++ w' } : Failure).detail = f.detail := rfl
    exact Failure.display_congr hdetail (Text.trim_padded hw hw' f.body)
  · intro C E Q V N engine evaluator context body h
    obtain ⟨spec, _, _, hf⟩ := Evaluator.result_eq_failed_iff.mp h
    refine ⟨by rw [hf, Engine.failure], fun w w' => ?_⟩
    exact Evaluator.result_failed_rebodied h _

/-- A body that looks like the detail is shown beside it all the same. -/
example : (Failure.mk .test "t" "\u3000evaluating test: t\n" none).display =
    "evaluating test: t (evaluating test: t)" := by decide +kernel

end Verdict
