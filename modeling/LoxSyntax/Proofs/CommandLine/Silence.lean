import LoxSyntax.CommandLine.Run
import LoxSyntax.Proofs.Lexing.Stream

/-!
# Runs whose log stays empty

Each part of the program tells a log nothing graver than its own kind of news; in particular no scan
ends without an end marker, so no warning is ever told of one. A level that lets none of these kinds
through keeps the log of every run empty.
-/
namespace LoxSyntax

open Logging (Level passes)

namespace Trace

/-- The gravest news of a part. -/
def Origin.gravest : Origin → Level
  | command => .info
  | pipeline | reporter | parser => .debug
  | scanner => .trace

/-- An event is no graver than the news of its part. -/
def Event.Own (e : Event) : Prop := e.origin.gravest.rank ≤ e.level.rank

variable {e : Event} {spec : Spec} {source : String} {r : Reporter}

private theorem own_ofDiagnostic (d : Diagnostic) : (ofDiagnostic d).Own := Nat.le_refl _

private theorem own_of_mem_ofScan (h : e ∈ ofScan source) : e.Own := by
  obtain ⟨f, -, told⟩ := List.mem_filterMap.1 h
  cases f with
  | diagnostic d =>
    obtain rfl := Option.some.inj told
    exact own_ofDiagnostic d
  | token t =>
    rw [ofFinding?, ofToken?] at told
    split at told
    · cases told
    · obtain rfl := Option.some.inj told
      exact Nat.le_refl _

private theorem own_of_mem_ofParse {p : Parsing.Parser} (proper : p.cursor.endsProperly = true)
    (h : e ∈ ofParse p) : e.Own := by
  rw [ofParse, if_pos proper] at h
  rcases List.mem_append.1 h with reported | ended
  · obtain ⟨d, -, rfl⟩ := List.mem_map.1 reported
    exact own_ofDiagnostic d
  · obtain rfl := List.mem_singleton.1 ended
    exact Nat.le_refl _

private theorem own_of_mem_ofProcess (h : e ∈ ofProcess spec source r) : e.Own := by
  rw [ofProcess] at h
  rcases List.mem_append.1 h with scanned | h
  · exact own_of_mem_ofScan scanned
  · rcases List.mem_cons.1 h with rfl | parsed
    · exact Nat.le_refl _
    · split at parsed
      · cases parsed
      · have proper : (Parsing.Parser.ofTokens (Lexing.scan source).tokens
            (r.record (Lexing.scan source).diagnostics)).cursor.endsProperly = true :=
          Lexing.endsProperly_scan source
        exact own_of_mem_ofParse proper parsed

private theorem own_of_mem_ofFile {d : Directory} {path : String} (h : e ∈ ofFile spec d path) :
    e.Own := by
  rw [ofFile] at h
  rcases List.mem_cons.1 h with rfl | processed
  · exact Nat.le_refl _
  · split at processed
    · exact own_of_mem_ofProcess processed
    · cases processed

end Trace

namespace Logging

variable {level part : String} {ds : List Directive} {d e : Directive}

private theorem decisive_foldl {best : Option Directive}
    (h : ds.foldl (fun best d => if best.all (·.width ≤ d.width) then some d else best) best =
      some d) :
    (best = some d ∨ d ∈ ds) ∧ (∀ e ∈ best, e.width ≤ d.width) ∧ ∀ e ∈ ds, e.width ≤ d.width := by
  induction ds generalizing best with
  | nil =>
    obtain rfl : best = some d := h
    exact ⟨.inl rfl, by simp, by simp⟩
  | cons e ds ih =>
    rw [List.foldl_cons] at h
    split at h
    · rename_i wider
      obtain ⟨found, above, others⟩ := ih h
      have own : e.width ≤ d.width := above e rfl
      refine ⟨.inr ?_, fun b hb => ?_, List.forall_mem_cons.2 ⟨own, others⟩⟩
      · rcases found with found | later
        · exact List.mem_cons.2 (.inl (Option.some.inj found).symm)
        · exact List.mem_cons_of_mem e later
      · obtain rfl : best = some b := hb
        exact Nat.le_trans (of_decide_eq_true wider) own
    · rename_i narrower
      obtain ⟨found, above, others⟩ := ih h
      refine ⟨found.imp_right (List.mem_cons_of_mem e), above,
        List.forall_mem_cons.2 ⟨?_, others⟩⟩
      cases best with
      | none => simp at narrower
      | some b =>
        have shorter : e.width < b.width := by simpa using narrower
        exact Nat.le_trans (Nat.le_of_lt shorter) (above b rfl)

/-- The directive that decides on a part is one for it, and no other one for it has a longer
name. -/
theorem decisive?_spec (h : decisive? part ds = some d) :
    d ∈ ds ∧ d.fits part = true ∧ ∀ e ∈ ds, e.fits part = true → e.width ≤ d.width := by
  obtain ⟨found, -, longest⟩ := decisive_foldl h
  obtain ⟨mem, fits⟩ := List.mem_filter.1 (found.resolve_left (by simp))
  exact ⟨mem, fits, fun e he own => longest e (List.mem_filter.2 ⟨he, own⟩)⟩

private theorem asked_le_warn (low : ∀ d ∈ directives level, d.level.rank ≤ Level.warn.rank)
    (part : String) : (asked level part).rank ≤ Level.warn.rank := by
  rw [asked]
  split
  · decide
  · cases found : decisive? part (directives level) with
    | none => decide
    | some d => exact low d (decisive?_spec found).1

end Logging

namespace CommandLine

variable {level : String}

private theorem own_of_mem_promptEvents {e : Trace.Event} {spec : Spec} {r : Reporter}
    {lines : List (List UInt8)} (h : e ∈ promptEvents spec r lines) : e.Own := by
  induction lines generalizing r with
  | nil => cases h
  | cons line more ih =>
    rw [promptEvents] at h
    split at h
    · cases h
    · rcases List.mem_append.1 h with own | later
      · exact Trace.own_of_mem_ofProcess own
      · exact ih later

/-- A level without faults that lets no news of any part through. -/
structure Silent (level : String) : Prop where
  unwarned : Logging.warnings level = ""
  withheld : ∀ part : Trace.Origin, passes level part.name part.gravest = false

theorem Silent.withheld_events (silent : Silent level) (arguments : List String) (d : Directory)
    (input : List UInt8) :
    ∀ e ∈ events arguments d input, passes level e.origin.name e.level = false := by
  intro e h
  have own : e.Own := by
    rw [events] at h
    split at h
    · cases h
    · exact Trace.own_of_mem_ofFile h
    · exact own_of_mem_promptEvents h
  have below : ¬e.origin.gravest.rank ≤ (Logging.asked level e.origin.name).rank :=
    of_decide_eq_false (silent.withheld e.origin)
  exact decide_eq_false fun passed => below (Nat.le_trans own passed)

/-- No part has news as grave as a warning. -/
theorem silent_of_le_warn (unwarned : Logging.warnings level = "")
    (low : ∀ d ∈ Logging.directives level, d.level.rank ≤ Level.warn.rank) : Silent level := by
  refine ⟨unwarned, fun part => ?_⟩
  have beyond : Level.warn.rank < part.gravest.rank := by cases part <;> decide
  exact decide_eq_false (Nat.not_le.2 (Nat.lt_of_le_of_lt (Logging.asked_le_warn low _) beyond))

theorem silent_warn : Silent "warn" := silent_of_le_warn (by decide +kernel) (by decide +kernel)

end CommandLine

end LoxSyntax
