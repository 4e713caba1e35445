import StoryBlanks.Game.Session
import StoryBlanks.Proofs.Library.Loading

/-!
# What moves the generator

A pick is a draw: a choice among the paths in rotation, of which the generator sees nothing but the
number. Main statement: over a whole session the generator moves on by the draws alone, each of
them from where the one before left it, so two sessions with the same seed and rotations of the same
sizes draw the same places.
-/
namespace StoryBlanks

namespace Generator

/-- The generator after choices among so many things each, one after another. -/
def afterAll (g : Generator) (sizes : List Nat) : Generator :=
  sizes.foldl (fun g n => (g.choose n).2) g

def choices (g : Generator) : List Nat → List Nat
  | [] => []
  | n :: sizes => (g.choose n).1 :: choices (g.choose n).2 sizes

@[simp] theorem afterAll_nil (g : Generator) : g.afterAll [] = g := rfl

@[simp] theorem afterAll_cons (g : Generator) (n : Nat) (sizes : List Nat) :
    g.afterAll (n :: sizes) = (g.choose n).2.afterAll sizes := rfl

@[simp] theorem choices_nil (g : Generator) : g.choices [] = [] := rfl

@[simp] theorem choices_cons (g : Generator) (n : Nat) (sizes : List Nat) :
    g.choices (n :: sizes) = (g.choose n).1 :: (g.choose n).2.choices sizes := rfl

theorem afterAll_append (g : Generator) (sizes more : List Nat) :
    g.afterAll (sizes ++ more) = (g.afterAll sizes).afterAll more := List.foldl_append

theorem choices_append (g : Generator) (sizes more : List Nat) :
    g.choices (sizes ++ more) = g.choices sizes ++ (g.afterAll sizes).choices more := by
  induction sizes generalizing g with
  | nil => rfl
  | cons n sizes ih => simp [ih]

end Generator

open Result

structure Library.Draw where
  paths : List Path
  place : Nat
  deriving DecidableEq, Repr

namespace Library

variable {l : Library} {t : Tree} {g : Generator}

def Draw.size (d : Draw) : Nat := d.paths.length

/-- The choice that a pick makes, if there is a rotation to choose from. -/
def draw? (l : Library) (t : Tree) (g : Generator) : Option Draw :=
  (l.rotation t).result.toOption.map fun paths => ⟨paths, (g.choose paths.length).1⟩

/-- Draws that are made one after another lead from one generator to another: every place is what
the generator chooses that the draws before have left. -/
structure Drawn (g : Generator) (ds : List Draw) (g' : Generator) : Prop where
  places : ds.map Draw.place = g.choices (ds.map Draw.size)
  after : g' = g.afterAll (ds.map Draw.size)

theorem Drawn.nil (g : Generator) : Drawn g [] g := ⟨rfl, rfl⟩

/-- The places of later draws depend on the generator that earlier ones leave. -/
theorem Drawn.append {g g' g'' : Generator} {ds more : List Draw} (h : Drawn g ds g')
    (hmore : Drawn g' more g'') : Drawn g (ds ++ more) g'' where
  places := by
    rw [List.map_append, List.map_append, Generator.choices_append, h.places, hmore.places, h.after]
  after := by
    rw [List.map_append, Generator.afterAll_append, hmore.after, h.after]

/-! ## Picks -/

theorem draw?_of_rotation {paths : List Path} (h : (l.rotation t).result = .ok paths) :
    l.draw? t g = some ⟨paths, (g.choose paths.length).1⟩ := by
  simp only [draw?, h]
  rfl

theorem draw?_of_error {e : SourceFailure} (h : (l.rotation t).result = .error e) :
    l.draw? t g = none := by
  simp only [draw?, h]
  rfl

/-- Whatever comes of a pick, the generator has moved on if there was a rotation to choose from. -/
theorem pick_generator {paths : List Path} (h : (l.rotation t).result = .ok paths) :
    (l.pick t g).2 = (g.choose paths.length).2 := by
  simp only [pick, h]

theorem pick_generator_of_error {e : SourceFailure} (h : (l.rotation t).result = .error e) :
    (l.pick t g).2 = g := by
  simp only [pick, h]

theorem pick_result_of_error {e : SourceFailure} (h : (l.rotation t).result = .error e) :
    (l.pick t g).1.result = .error e := by
  simp only [pick, h]

/-- A pick loads the path at the place that was chosen. -/
theorem pick_loads {paths : List Path} (h : (l.rotation t).result = .ok paths) :
    ∃ p, paths[(g.choose paths.length).1]? = some p ∧
      (l.pick t g).1.result = (l.manifest t).result >>= fun m => l.load t p m := by
  have hlt := g.choose_lt (List.length_pos_iff.mpr (rotation_ne_nil h))
  refine ⟨paths[(g.choose paths.length).1], List.getElem?_eq_getElem hlt, ?_⟩
  rw [pick_result h, List.getD_eq_getElem _ _ hlt]

/-- A pick makes one draw if there is a rotation, and none otherwise. -/
theorem pick_drawn (l : Library) (t : Tree) (g : Generator) :
    Drawn g (l.draw? t g).toList (l.pick t g).2 := by
  cases h : (l.rotation t).result with
  | error e =>
    rw [draw?_of_error h, pick_generator_of_error h]
    exact .nil g
  | ok paths =>
    rw [draw?_of_rotation h, pick_generator h]
    exact ⟨rfl, rfl⟩

end Library

namespace Game

open Library (Draw Drawn)
open Round (Turn)

def Step.Picks : Step → Prop
  | .pick | .pickTemplate | .picks _ | .playPicked _ _ => True
  | _ => False

namespace Session

/-- The draws of several picks. After a pick that fails there is no other one. -/
def drawsUpTo (l : Library) (t : Tree) : Nat → Generator → List Draw
  | 0, _ => []
  | n + 1, g =>
    (l.draw? t g).toList ++
      match (l.pick t g).1.result with
      | .ok _ => drawsUpTo l t n (l.pick t g).2
      | .error _ => []

def drawsOf (l : Library) (s : Session) : Step → List Draw
  | .pick | .pickTemplate | .playPicked _ _ => (l.draw? s.tree s.generator).toList
  | .picks n => drawsUpTo l s.tree n s.generator
  | _ => []

def draws (l : Library) (s : Session) : List Step → List Draw
  | [] => []
  | next :: steps => drawsOf l s next ++ draws l (step l s next).2 steps

variable {l : Library} {s : Session}

/-- By induction on the number of picks, as long as they succeed. -/
theorem pickNames_drawn (l : Library) (t : Tree) (n : Nat) (g : Generator) :
    Drawn g (drawsUpTo l t n g) (pickNames l t n g).2 := by
  induction n generalizing g with
  | zero => exact .nil g
  | succ n ih =>
    have hfirst := Library.pick_drawn l t g
    rw [drawsUpTo, pickNames]
    cases h : (l.pick t g).1.result with
    | error e =>
      simp only [h, List.append_nil]
      exact hfirst
    | ok story =>
      simp only [h]
      exact hfirst.append (ih _)

theorem drawsUpTo_of_error {t : Tree} {g : Generator} {e : SourceFailure}
    (h : (l.rotation t).result = .error e) (n : Nat) : drawsUpTo l t n g = [] := by
  cases n with
  | zero => rfl
  | succ n => simp only [drawsUpTo, Library.draw?_of_error h, Library.pick_result_of_error h]; rfl

/-- The name of the story at the place of a draw, as a library sees it. -/
def Names (l : Library) (d : Draw) (name : Text) : Prop :=
  ∃ p, d.paths[d.place]? = some p ∧ (l.directory / p).name = name

theorem pickNames_succ_eq_ok {t : Tree} {n : Nat} {g : Generator} {names : List Text} :
    (pickNames l t (n + 1) g).1.result = .ok names ↔
      ∃ story rest, (l.pick t g).1.result = .ok story ∧
        (pickNames l t n (l.pick t g).2).1.result = .ok rest ∧ story.path.name :: rest = names := by
  rw [pickNames]
  cases hfirst : (l.pick t g).1.result with
  | error e => simp [hfirst]
  | ok story =>
    simp only [hfirst]
    change ((l.pick t g).1 >>= fun _ => (pickNames l t n (l.pick t g).2).1 >>= fun rest =>
      pure (story.path.name :: rest)).result = .ok names ↔ _
    rw [Noted.result_bind, hfirst, bind_eq_ok]
    simp [Noted.result_map, map_eq_ok]

/-- Picks that all succeed give the names at the places of as many draws. -/
theorem names_of_picks {t : Tree} {n : Nat} {g : Generator} {names : List Text}
    (h : (pickNames l t n g).1.result = .ok names) :
    names.length = n ∧ List.Forall₂ (Names l) (drawsUpTo l t n g) names := by
  induction n generalizing g names with
  | zero =>
    cases h
    exact ⟨rfl, .nil⟩
  | succ n ih =>
    obtain ⟨story, rest, hfirst, hrest, rfl⟩ := pickNames_succ_eq_ok.mp h
    obtain ⟨hlength, hnames⟩ := ih hrest
    refine ⟨congrArg Nat.succ hlength, ?_⟩
    cases hlisted : (l.rotation t).result with
    | error e => simp [Library.pick_result_of_error hlisted] at hfirst
    | ok paths =>
      obtain ⟨p, hp, hload⟩ := Library.pick_loads hlisted
      obtain ⟨m, -, hload⟩ := bind_eq_ok.mp (hload.symm.trans hfirst)
      simp only [drawsUpTo, hfirst, Library.draw?_of_rotation hlisted]
      exact .cons ⟨p, hp, by rw [Library.path_of_load hload]⟩ hnames

/-- One step moves the generator by its draws. -/
theorem step_drawn (l : Library) (s : Session) (next : Step) :
    Drawn s.generator (drawsOf l s next) (step l s next).2.generator := by
  cases next with
  | pick => exact Library.pick_drawn l s.tree s.generator
  | pickTemplate => exact Library.pick_drawn l s.tree s.generator
  | picks n => exact pickNames_drawn l s.tree n s.generator
  | playPicked o answers => exact Library.pick_drawn l s.tree s.generator
  | load path withManifest => cases withManifest <;> exact .nil s.generator
  | _ => exact .nil s.generator

theorem drawsOf_of_not_picks {next : Step} (h : ¬ next.Picks) : drawsOf l s next = [] := by
  cases next <;> first | rfl | exact absurd trivial h

theorem drawsOf_of_error {e : SourceFailure} (h : (l.rotation s.tree).result = .error e)
    (next : Step) : drawsOf l s next = [] := by
  cases next with
  | picks n => exact drawsUpTo_of_error h n
  | pick | pickTemplate | playPicked => simp only [drawsOf, Library.draw?_of_error h]; rfl
  | _ => rfl

/-- A whole session moves the generator by its draws: by induction on the steps. -/
theorem run_drawn (l : Library) (s : Session) (steps : List Step) :
    Drawn s.generator (draws l s steps) (run l s steps).2.generator := by
  induction steps generalizing s with
  | nil => exact .nil s.generator
  | cons next steps ih => exact (step_drawn l s next).append (ih (step l s next).2)

/-- The generator of a session has moved by the choices of its picks and by nothing else: one choice
for each pick that found a rotation, in order, of which only the size of the rotation counts. No
other step moves it, nor a pick without a rotation; and a pick with one moves it whether or not the
chosen file can be loaded. So another session from the same generator, with rotations of the same
sizes, chooses the same places, whatever the library, the files and the steps are. -/
theorem run_generator (l : Library) (s : Session) (steps : List Step) :
    (run l s steps).2.generator = s.generator.afterAll ((draws l s steps).map Draw.size) ∧
    (∀ next, ¬ next.Picks → (step l s next).2.generator = s.generator) ∧
    (∀ next e, (l.rotation s.tree).result = .error e →
      (step l s next).2.generator = s.generator) ∧
    (∀ paths, (l.rotation s.tree).result = .ok paths →
      (l.pick s.tree s.generator).2 = (s.generator.choose paths.length).2 ∧
      ∃ p, paths[(s.generator.choose paths.length).1]? = some p ∧
        (l.pick s.tree s.generator).1.result =
          ((l.manifest s.tree).result >>= fun m => l.load s.tree p m)) ∧
    (∀ n names, (pickNames l s.tree n s.generator).1.result = .ok names →
      names.length = n ∧ List.Forall₂ (Names l) (drawsUpTo l s.tree n s.generator) names) ∧
    ∀ (l' : Library) (s' : Session) (steps' : List Step), s'.generator = s.generator →
      (draws l' s' steps').map Draw.size = (draws l s steps).map Draw.size →
      (draws l' s' steps').map Draw.place = (draws l s steps).map Draw.place ∧
        (run l' s' steps').2.generator = (run l s steps).2.generator := by
  have hrun := run_drawn l s steps
  refine ⟨hrun.after, fun next hnext => ?_, fun next e he => ?_, fun paths hpaths => ?_,
    fun n names h => names_of_picks h, fun l' s' steps' hgenerator hsizes => ?_⟩
  · have hstep := (step_drawn l s next).after
    rwa [drawsOf_of_not_picks hnext] at hstep
  · have hstep := (step_drawn l s next).after
    rwa [drawsOf_of_error he] at hstep
  · exact ⟨Library.pick_generator hpaths, Library.pick_loads hpaths⟩
  · have hrun' := run_drawn l' s' steps'
    constructor
    · rw [hrun'.places, hrun.places, hgenerator, hsizes]
    · rw [hrun'.after, hrun.after, hgenerator, hsizes]

def readable : Tree :=
  { entries := [([['s']], .directory), ([['s'], ['a']], .file [65]), ([['s'], ['b']], .file [66])] }

def unreadable : Tree :=
  { entries :=
      [([['t']], .directory), ([['t'], ['x']], .file [0xFF]), ([['t'], ['y']], .file [0xFF])] }

/-- Stories that cannot be read are chosen in the same places as others. -/
theorem run_generator_unreadable :
    let l : Library := { directory := Path.ofText ['/', 's'] }
    let l' : Library := { directory := Path.ofText ['/', 't'] }
    let s : Session := ⟨readable, Generator.ofSeed 7⟩
    let s' : Session := ⟨unreadable, Generator.ofSeed 7⟩
    (draws l s [.pick, .rotation, .pickTemplate]).map Draw.size = [2, 2] ∧
      (draws l' s' [.pick, .pick]).map Draw.size = [2, 2] ∧
      (draws l' s' [.pick, .pick]).map Draw.place =
        (draws l s [.pick, .rotation, .pickTemplate]).map Draw.place := by
  intro l l' s s'
  have hlisted : (l.rotation readable).result =
      .ok [Path.ofText ['/', 's', '/', 'a'], Path.ofText ['/', 's', '/', 'b']] := by cbv
  have hlisted' : (l'.rotation unreadable).result =
      .ok [Path.ofText ['/', 't', '/', 'x'], Path.ofText ['/', 't', '/', 'y']] := by cbv
  have hsizes : (draws l s [.pick, .rotation, .pickTemplate]).map Draw.size = [2, 2] := by
    simp only [draws, drawsOf, step, Session.draw, look, s, Library.draw?_of_rotation hlisted]
    rfl
  have hsizes' : (draws l' s' [.pick, .pick]).map Draw.size = [2, 2] := by
    simp only [draws, drawsOf, step, Session.draw, s', Library.draw?_of_rotation hlisted']
    rfl
  obtain ⟨-, -, -, -, -, hsame⟩ := run_generator l s [.pick, .rotation, .pickTemplate]
  exact ⟨hsizes, hsizes', (hsame l' s' [.pick, .pick] rfl (hsizes'.trans hsizes.symm)).1⟩

end Session
end Game
end StoryBlanks
