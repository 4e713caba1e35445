import StoryBlanks.Proofs.Game.Drawing
import StoryBlanks.Proofs.Game.Play
import StoryBlanks.Proofs.Library.Titles

/-!
# What is picked

A pick lists the stories, chooses a place among them, and looks at the manifest once more before it
loads one; to load all stories is to look at the manifest first and to list them afterwards. Main
statement: where all stories can be loaded, a pick gives the very story at the chosen place among
them, and to play a picked story is to play that one.
-/
namespace StoryBlanks

open Result

namespace Library

variable {l : Library} {t : Tree} {ss : List Story}

/-- All stories are loaded along the rotation, every one with the same manifest. -/
theorem loadAll_eq_ok : (l.loadAll t).result = .ok ss ↔
    ∃ m paths, (l.manifest t).result = .ok m ∧ (l.rotation t).result = .ok paths ∧
      List.Forall₂ (fun p s => l.load t p m = .ok s) paths ss := by
  rw [loadAll_result, bind_eq_ok]
  constructor
  · rintro ⟨m, hm, h⟩
    obtain ⟨paths, hpaths, h⟩ := bind_eq_ok.mp h
    exact ⟨m, paths, hm, hpaths, mapM_eq_ok.mp h⟩
  · rintro ⟨m, paths, hm, hpaths, hloads⟩
    exact ⟨m, hm, bind_eq_ok.mpr ⟨paths, hpaths, mapM_eq_ok.mpr hloads⟩⟩

/-- The manifest that a pick looks at is the one that all stories are loaded with. -/
theorem pick_of_place (h : (l.loadAll t).result = .ok ss) (g : Generator) :
    ∃ s, ss[(g.choose ss.length).1]? = some s ∧ (l.pick t g).1.result = .ok s ∧
      (l.pick t g).2 = (g.choose ss.length).2 := by
  obtain ⟨m, paths, hm, hpaths, hloads⟩ := loadAll_eq_ok.mp h
  have hlength : paths.length = ss.length := hloads.length_eq
  obtain ⟨p, hp, hpick⟩ := pick_loads (g := g) hpaths
  rw [hlength] at hp
  obtain ⟨hplace, rfl⟩ := List.getElem?_eq_some_iff.mp hp
  have hplace' : (g.choose ss.length).1 < ss.length := hlength ▸ hplace
  refine ⟨ss[(g.choose ss.length).1], List.getElem?_eq_getElem hplace', ?_, ?_⟩
  · rw [hpick, hm]
    exact hloads.get hplace hplace'
  · rw [pick_generator hpaths, hlength]

end Library

namespace Game

open Round (Turn)

/-- A picked story is played like any other one, with the notes of the pick in front. -/
theorem playPicked_of_pick {l : Library} {t : Tree} {g : Generator} {s : Story}
    (h : (l.pick t g).1.result = .ok s) (o : Options) (answers : List Answer) :
    playPicked l t g o answers =
      ({ play s o answers with notes := (l.pick t g).1.notes ++ (play s o answers).notes },
        (l.pick t g).2) := by
  have hpicked : ((l.pick t g).1.mapError Failure.source).result = .ok s :=
    mapError_eq_ok.mpr h
  simp only [playPicked, Turn.after_of_ok hpicked]
  rfl

/-- Where all stories can be loaded, every generator picks the one at the place that it chooses among
so many. The template of a picked story is the template of that one, and a round with a picked story
is in all it shows, prints, leaves and returns a round with that one; the generator moves on by the
choice alone. -/
theorem pick_at_chosen_place {l : Library} {t : Tree} {ss : List Story}
    (h : (l.loadAll t).result = .ok ss) (g : Generator) :
    ∃ s, ss[(g.choose ss.length).1]? = some s ∧
      (l.pick t g).1.result = .ok s ∧ (l.pick t g).2 = (g.choose ss.length).2 ∧
      (Session.step l ⟨t, g⟩ .pickTemplate).1.result = .ok (.text s.template) ∧
      ∀ (o : Options) (answers : List Answer), playPicked l t g o answers =
        ({ play s o answers with notes := (l.pick t g).1.notes ++ (play s o answers).notes },
          (g.choose ss.length).2) := by
  obtain ⟨s, hs, hpick, hgenerator⟩ := Library.pick_of_place h g
  refine ⟨s, hs, hpick, hgenerator, ?_, fun o answers => ?_⟩
  · have hpicked : ((l.pick t g).1.mapError Failure.source).result = .ok s :=
      mapError_eq_ok.mpr hpick
    simp only [Session.step, Session.draw, Turn.silent, Noted.result_map, hpicked]
    rfl
  · rw [playPicked_of_pick hpick, hgenerator]

/-- A pick between two stories that a manifest names, one of them below the directory. -/
theorem pick_at_chosen_place_nested :
    let ss : List Story := [⟨Path.ofText ['/', 's', '/', 'a'], .text ['B'], ['A']⟩,
      ⟨Path.ofText ['/', 's', '/', 't', '/', 'c'], .text ['C'], ['B']⟩]
    (Library.nested.loadAll Library.nestedTree).result = .ok ss ∧
      ∃ s, ss[((Generator.ofSeed 7).choose 2).1]? = some s ∧
        (Library.nested.pick Library.nestedTree (Generator.ofSeed 7)).1.result = .ok s ∧
        (Session.step Library.nested ⟨Library.nestedTree, Generator.ofSeed 7⟩
          .pickTemplate).1.result = .ok (.text s.template) := by
  intro ss
  have hall : (Library.nested.loadAll Library.nestedTree).result = .ok ss := by
    rw [Library.loadAll_of_manifest Library.manifest_nested]
    cbv
  obtain ⟨s, hs, hpick, -, htemplate, -⟩ := pick_at_chosen_place hall (Generator.ofSeed 7)
  exact ⟨hall, s, hs, hpick, htemplate⟩

end Game
end StoryBlanks
