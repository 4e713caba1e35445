import StoryBlanks.Settings.Session
import Mathlib

/-!
# Directories that are restored

Steps are balanced if every directory that is entered among them is left again. Main statement:
whatever balanced steps are taken inside a directory, after leaving it the session has its old
directory back, and the other settings are those of the last reload that succeeded. A reload that
fails changes nothing.
-/
namespace StoryBlanks.Settings

/-- The second settings are the first ones, perhaps with another directory. -/
def AgreeElsewhere (a b : Settings) : Prop := ∃ directory, b = { a with directory }

theorem AgreeElsewhere.refl (a : Settings) : a.AgreeElsewhere a := ⟨a.directory, rfl⟩

theorem AgreeElsewhere.set {a b : Settings} (h : a.AgreeElsewhere b) (directory : Text) :
    a.AgreeElsewhere { b with directory } := by
  obtain ⟨_, rfl⟩ := h
  exact ⟨directory, rfl⟩

def Step.IsPlain : Step → Prop
  | .enter _ | .leave => False
  | _ => True

/-- Every directory that is entered is left again, and no other one is. -/
inductive Balanced : List Step → Prop where
  | nil : Balanced []
  | plain {next steps} (h : next.IsPlain) (rest : Balanced steps) : Balanced (next :: steps)
  | nested {directory inner steps} (inside : Balanced inner) (rest : Balanced steps) :
      Balanced (.enter directory :: (inner ++ .leave :: steps))

def loadedBy (before : Settings) : Step × Except Failure Reply → Settings
  | (.reload, .ok (.settings s)) => s
  | _ => before

/-- The settings of the last reload that succeeded among some steps with their replies, or else
those before. -/
def lastLoaded (before : Settings) (steps : List Step) (replies : List (Except Failure Reply)) :
    Settings :=
  (steps.zip replies).foldl loadedBy before

namespace Session

variable {root : Path} {s : Session} {before : Settings} {steps : List Step}

/-! ## Runs -/

theorem length_run (root : Path) (s : Session) (steps : List Step) :
    (run root s steps).1.length = steps.length := by
  induction steps generalizing s with
  | nil => rfl
  | cons next steps ih => exact congrArg Nat.succ (ih (step root s next).2)

theorem run_append (root : Path) (s : Session) (steps more : List Step) :
    run root s (steps ++ more) =
      ((run root s steps).1 ++ (run root (run root s steps).2 more).1,
        (run root (run root s steps).2 more).2) := by
  induction steps generalizing s with
  | nil => rfl
  | cons next steps ih => simp only [List.cons_append, run, ih]

/-- A stay in a directory, from the outside. -/
theorem run_nested (directory : Path) (inner : List Step) :
    (run root s (.enter directory :: (inner ++ .leave :: steps))).2 =
      (run root (run root (s.enter directory) inner).2.leave steps).2 := by
  simp only [run, step, run_append]

theorem lastLoaded_cons (next : Step) (reply : Except Failure Reply)
    (replies : List (Except Failure Reply)) :
    lastLoaded before (next :: steps) (reply :: replies) =
      lastLoaded (loadedBy before (next, reply)) steps replies := rfl

theorem lastLoaded_append (more : List Step) (replies : List (Except Failure Reply)) :
    lastLoaded before (steps ++ more) ((run root s steps).1 ++ replies) =
      lastLoaded (lastLoaded before steps (run root s steps).1) more replies := by
  rw [lastLoaded, List.zip_append (length_run root s steps).symm, List.foldl_append]
  rfl

/-- Neither entering nor leaving loads settings. -/
theorem lastLoaded_nested (directory : Path) (inner : List Step) :
    lastLoaded before (.enter directory :: (inner ++ .leave :: steps))
        (run root s (.enter directory :: (inner ++ .leave :: steps))).1 =
      lastLoaded (lastLoaded before inner (run root (s.enter directory) inner).1) steps
        (run root (run root (s.enter directory) inner).2.leave steps).1 := by
  simp only [run, step, run_append, lastLoaded_cons, lastLoaded_append]
  rfl

/-! ## Balanced steps -/

/-- After some steps the directories to go back to are the same ones, and the settings are the last
ones that were loaded, up to their directory. -/
structure Keeps (root : Path) (s : Session) (before : Settings) (steps : List Step) : Prop where
  saved : (run root s steps).2.saved = s.saved
  agree : (lastLoaded before steps (run root s steps).1).AgreeElsewhere
    (run root s steps).2.current

/-- Reloading is the only plain step with a say over the settings. -/
theorem step_keeps (root : Path) {next : Step} (hnext : next.IsPlain)
    (h : before.AgreeElsewhere s.current) :
    (step root s next).2.saved = s.saved ∧
      (loadedBy before (next, (step root s next).1)).AgreeElsewhere
        (step root s next).2.current := by
  cases next with
  | enter | leave => exact absurd hnext not_false
  | reload =>
    simp only [step, reload]
    split
    · exact ⟨rfl, .refl _⟩
    · exact ⟨rfl, h⟩
  | _ => exact ⟨rfl, h⟩

/-- What was saved on entering is taken up again on leaving. -/
theorem leave_restores {directory : Path} {inner : List Step}
    (h : Keeps root (s.enter directory) before inner) :
    (run root (s.enter directory) inner).2.leave.saved = s.saved ∧
      (run root (s.enter directory) inner).2.leave.current =
        { (run root (s.enter directory) inner).2.current with
          directory := s.current.directory } := by
  have hsaved : (run root (s.enter directory) inner).2.saved = s.current.directory :: s.saved :=
    h.saved
  simp only [leave, hsaved, and_self]

/-- By induction on how the steps are balanced, for every session that they may start from. -/
theorem balanced_keeps (hsteps : Balanced steps) (root : Path) (s : Session) (before : Settings)
    (h : before.AgreeElsewhere s.current) : Keeps root s before steps := by
  induction hsteps generalizing s before with
  | nil => exact ⟨rfl, h⟩
  | plain hnext _ ih =>
    obtain ⟨hsaved, hagree⟩ := step_keeps root hnext h
    obtain ⟨hsaved', hagree'⟩ := ih _ _ hagree
    exact ⟨hsaved'.trans hsaved, hagree'⟩
  | @nested directory inner steps _ _ ihinside ihrest =>
    have hinside := ihinside (s.enter directory) before (h.set directory.text)
    obtain ⟨hsaved, hcurrent⟩ := leave_restores hinside
    have hrest := ihrest _ _ (hcurrent ▸ hinside.agree.set s.current.directory)
    refine ⟨?_, ?_⟩
    · rw [run_nested, hrest.saved, hsaved]
    · rw [run_nested, lastLoaded_nested]
      exact hrest.agree

/-- After a directory was entered, balanced steps were taken inside, and it was left again, the
session has the directory that it had before, and goes back to the same ones after that. All its
other settings are those of the last reload inside that succeeded, or those it had if there was
none. And at any time, a reload puts the settings that are loaded in place of all current ones; if
they cannot be loaded, nothing changes. -/
theorem run_restores {inner : List Step} (h : Balanced inner) (root : Path) (s : Session)
    (directory : Path) :
    let steps := .enter directory :: (inner ++ [.leave])
    ((run root s steps).2.current =
        { lastLoaded s.current steps (run root s steps).1 with directory := s.current.directory } ∧
      (run root s steps).2.saved = s.saved) ∧
    ∀ now : Session,
      (∀ settings, Settings.load root now.tree now.environment = .ok settings →
        step root now .reload = (.ok (.settings settings), { now with current := settings })) ∧
      ∀ e, Settings.load root now.tree now.environment = .error e →
        step root now .reload = (.error e, now) := by
  intro steps
  have hkeeps : Keeps root s s.current steps :=
    balanced_keeps (.nested h .nil) root s s.current (.refl _)
  have hinside : Keeps root (s.enter directory) s.current inner :=
    balanced_keeps h root (s.enter directory) s.current ⟨directory.text, rfl⟩
  have hdirectory : (run root s steps).2.current.directory = s.current.directory := by
    rw [run_nested, run, (leave_restores hinside).2]
  refine ⟨⟨?_, hkeeps.saved⟩, fun now => ⟨fun settings hload => ?_, fun e hload => ?_⟩⟩
  · obtain ⟨last, hlast⟩ := hkeeps.agree
    rw [← hdirectory, hlast]
  · simp only [step, reload, hload]
  · simp only [step, reload, hload]

/-- Inside a directory, the width is set and loaded in another directory, and then set to what is no
number, so that the next reload fails. -/
def visit : List Step :=
  [.environment { lineWidth := ['5'] }, .enter (Path.ofText ['q']), .reload,
    .environment { lineWidth := ['?'] }, .reload, .leave]

/-- The width stays, and the directory is the old one. -/
theorem run_restores_visit :
    Balanced visit ∧
      (run (Path.ofText ['/']) ⟨{ entries := [] }, {}, {}, []⟩
          (.enter (Path.ofText ['p']) :: (visit ++ [.leave]))).2.current =
        { ({} : Settings) with lineWidth := 5 } := by
  have hinner : Balanced [.reload, .environment { lineWidth := ['?'] }, .reload] :=
    .plain trivial (.plain trivial (.plain trivial .nil))
  have hbalanced : Balanced visit := .plain trivial (.nested hinner .nil)
  obtain ⟨⟨hcurrent, -⟩, -⟩ := run_restores hbalanced (Path.ofText ['/'])
    ⟨{ entries := [] }, {}, {}, []⟩ (Path.ofText ['p'])
  refine ⟨hbalanced, hcurrent.trans ?_⟩
  cbv

end Session
end StoryBlanks.Settings
