import StoryBlanks.Settings.Basic
import StoryBlanks.Proofs.Files.Reading
import StoryBlanks.Proofs.Settings.Ini
import StoryBlanks.Proofs.Text.Utf8
import Mathlib

/-!
# Where settings come from

One INI file is in force, and what it gives is settled together with what the environment gives. Main
statement: every setting has the value of its own variable if that is not empty, else the one that the
file in force gives, and else its usual value. The file in force is the example only where there is no
other one.
-/
namespace StoryBlanks.Settings

open Result

/-! ## The file in force -/

/-- The INI file that is in force, empty if there is none. -/
inductive InForce (root : Path) (t : Tree) : Ini → Prop where
  | own {ini} (there : t.isThere (file root) = .ok true)
      (reads : readFile t (file root) = .ok ini) : InForce root t ini
  | sample {ini} (absent : t.isThere (file root) = .ok false)
      (there : t.isThere (exampleFile root) = .ok true)
      (reads : readFile t (exampleFile root) = .ok ini) : InForce root t ini
  | neither (absent : t.isThere (file root) = .ok false)
      (alone : t.isThere (exampleFile root) = .ok false) : InForce root t Ini.empty

inductive Overridable where
  | directory
  | manifest
  | lineWidth
  | logLevel
  deriving DecidableEq

namespace Overridable

def place : Overridable → Text
  | .directory | .manifest => "stories"
  | .lineWidth => "display"
  | .logLevel => "logging"

def option : Overridable → Text
  | .directory => "directory"
  | .manifest => "manifest"
  | .lineWidth => "line_width"
  | .logLevel => "level"

def given : Overridable → Environment → Text
  | .directory, e => e.directory
  | .manifest, e => e.manifest
  | .lineWidth, e => e.lineWidth
  | .logLevel, e => e.logLevel

end Overridable

/-- A setting is read from its variable if that is not empty, else from what the option means if the
file has it, and else it is the usual one. -/
inductive Comes {α : Type} (ini : Ini) (name option given : Text) (read : Text → Except Failure α)
    (usual : α) : α → Prop where
  | environment {v} (present : given ≠ []) (reads : read given = .ok v) :
      Comes ini name option given read usual v
  | file {raw cs v} (absent : given = []) (has : ini.Has name option raw)
      (means : ini.Means name (Ini.tokens raw) cs) (reads : read cs = .ok v) :
      Comes ini name option given read usual v
  | usual (absent : given = []) (lacks : ∀ raw, ¬ ini.Has name option raw) :
      Comes ini name option given read usual usual

/-- A style has to be named as it is, in any case. -/
inductive StyleComes (ini : Ini) (name option : Text) (usual : Journal.Style) :
    Journal.Style → Prop where
  | file {raw cs style} (has : ini.Has name option raw)
      (means : ini.Means name (Ini.tokens raw) cs) (names : Text.toLower cs = style.name) :
      StyleComes ini name option usual style
  | unknown {raw cs} (has : ini.Has name option raw)
      (means : ini.Means name (Ini.tokens raw) cs)
      (unnamed : ∀ style : Journal.Style, Text.toLower cs ≠ style.name) :
      StyleComes ini name option usual usual
  | usual (lacks : ∀ raw, ¬ ini.Has name option raw) : StyleComes ini name option usual usual

structure Sourced (ini : Ini) (e : Environment) (s : Settings) : Prop where
  directory : Comes ini "stories" "directory" e.directory .ok ({} : Settings).directory s.directory
  manifest : Comes ini "stories" "manifest" e.manifest .ok ({} : Settings).manifest s.manifest
  lineWidth : Comes ini "display" "line_width" e.lineWidth number ({} : Settings).lineWidth s.lineWidth
  promptFormat : ini.Has "display" "prompt_format" s.promptFormat ∨
    (∀ raw, ¬ ini.Has "display" "prompt_format" raw) ∧
      s.promptFormat = ({} : Settings).promptFormat
  logLevel : Comes ini "logging" "level" e.logLevel (fun cs => .ok (Text.toUpper cs))
    ({} : Settings).logLevel s.logLevel
  logStyle : StyleComes ini "logging" "format" ({} : Settings).logStyle s.logStyle

variable {root : Path} {t t' : Tree} {ini : Ini} {e e' : Environment} {s s' : Settings}

theorem chosenFile_own (there : t.isThere (file root) = .ok true) :
    chosenFile root t = .ok (some (file root)) := by
  rw [chosenFile, there]
  rfl

theorem chosenFile_sample (absent : t.isThere (file root) = .ok false) :
    chosenFile root t = (t.isThere (exampleFile root)).map fun there =>
      if there then some (exampleFile root) else none := by
  rw [chosenFile, absent]
  cases t.isThere (exampleFile root) with
  | error r => rfl
  | ok there => cases there <;> rfl

def width? : Option Text → Except Failure (Option Int)
  | some cs => some <$> number cs
  | none => pure none

/-- What the file and the environment give for all settings, put together. -/
def settle (e : Environment) (got : Overridable → Except Failure (Option Text))
    (promptFormat : Option Text) (logStyle : Except Failure (Option Text)) :
    Except Failure Settings := do
  let directory ← got .directory
  let manifest ← got .manifest
  let lineWidth ← got .lineWidth >>= width?
  let logLevel ← got .logLevel
  let logStyle ← logStyle
  let usual : Settings := {}
  let file : Settings := {
    directory := directory.getD usual.directory
    manifest := manifest.getD usual.manifest
    lineWidth := lineWidth.getD usual.lineWidth
    promptFormat := promptFormat.getD usual.promptFormat
    logLevel := (logLevel.map Text.toUpper).getD usual.logLevel
    logStyle := (logStyle.bind fun cs => Journal.Style.ofName? (Text.toLower cs)).getD usual.logStyle }
  file.withEnvironment e

def got (ini : Ini) (v : Overridable) : Except Failure (Option Text) := option ini v.place v.option

def settled (e : Environment) (ini : Ini) : Except Failure Settings :=
  settle e (got ini) (ini.raw? "display" "prompt_format") (option ini "logging" "format")

theorem withFile_withEnvironment (e : Environment) (ini : Ini) :
    (withFile {} ini >>= fun s => s.withEnvironment e) = settled e ini := by
  unfold withFile settled settle
  simp only [bind_assoc, pure_bind]
  refine bind_congr fun directory => bind_congr fun manifest => bind_congr fun width => ?_
  cases width with
  | none =>
    simp only [width?, bind_assoc, pure_bind]
    rfl
  | some cs =>
    simp only [width?, bind_assoc, pure_bind]
    rfl

theorem load_of_chosen {path : Path} (hchosen : chosenFile root t = .ok (some path))
    (e : Environment) : load root t e = readFile t path >>= settled e := by
  have hload : load root t e =
      readFile t path >>= fun ini => withFile {} ini >>= fun s => s.withEnvironment e := by
    rw [load, hchosen]
    rfl
  rw [hload]
  exact bind_congr (withFile_withEnvironment e)

theorem load_of_none (hchosen : chosenFile root t = .ok none) (e : Environment) :
    load root t e = settled e Ini.empty := by
  rw [load, hchosen, ← withFile_withEnvironment]
  rfl

/-- Loading is settling for the file that is in force. -/
theorem load_eq_settled (h : InForce root t ini) (e : Environment) :
    load root t e = settled e ini := by
  cases h with
  | own there reads =>
    rw [load_of_chosen (chosenFile_own there), reads]
    rfl
  | sample absent there reads =>
    have hchosen : chosenFile root t = .ok (some (exampleFile root)) := by
      rw [chosenFile_sample absent, there]
      rfl
    rw [load_of_chosen hchosen, reads]
    rfl
  | neither absent alone =>
    have hchosen : chosenFile root t = .ok none := by
      rw [chosenFile_sample absent, alone]
      rfl
    rw [load_of_none hchosen]

/-- Settings are only loaded where it is clear which file is in force, and it can be read. -/
theorem exists_inForce (h : load root t e = .ok s) : ∃ ini, InForce root t ini := by
  cases hown : t.isThere (file root) with
  | error r =>
    rw [load, chosenFile, hown] at h
    cases h
  | ok there =>
    cases there with
    | true =>
      rw [load_of_chosen (chosenFile_own hown)] at h
      obtain ⟨ini, hini, -⟩ := bind_eq_ok.mp h
      exact ⟨ini, .own hown hini⟩
    | false =>
      have hchosen := chosenFile_sample hown
      cases hsample : t.isThere (exampleFile root) with
      | error r =>
        rw [load, hchosen, hsample] at h
        cases h
      | ok there =>
        rw [hsample] at hchosen
        cases there with
        | true =>
          rw [load_of_chosen hchosen] at h
          obtain ⟨ini, hini, -⟩ := bind_eq_ok.mp h
          exact ⟨ini, .sample hown hsample hini⟩
        | false => exact ⟨Ini.empty, .neither hown hsample⟩

/-- A file that holds a text and fits into one chunk is read as this text. -/
theorem readFile_of_encode {path : Path} {cs : Text} (hread : t.read path = .ok (Utf8.encode cs))
    (hsize : (Utf8.encode cs).length ≤ Utf8.chunkSize) :
    readFile t path = (Ini.ofReading ⟨cs, none⟩).mapError (.file path) := by
  simp only [readFile, hread, Utf8.decodeStream_encode hsize]

theorem isDistinct_of_readFile {path : Path} (h : readFile t path = .ok ini) : ini.IsDistinct := by
  unfold readFile at h
  split at h
  · cases h
    exact List.nodup_nil
  · exact Ini.isDistinct_of_ofReading (mapError_eq_ok.mp h)

theorem InForce.isDistinct (h : InForce root t ini) : ini.IsDistinct := by
  cases h with
  | own there reads => exact isDistinct_of_readFile reads
  | sample absent there reads => exact isDistinct_of_readFile reads
  | neither absent alone => exact List.nodup_nil

/-- While there is a file of one's own, nothing else that is in the tree matters. -/
theorem load_own (there : t.isThere (file root) = .ok true) (there' : t'.isThere (file root) = .ok true)
    (hread : t'.read (file root) = t.read (file root)) (e : Environment) :
    load root t' e = load root t e := by
  rw [load_of_chosen (chosenFile_own there), load_of_chosen (chosenFile_own there'), readFile, readFile,
    hread]

/-! ## One setting -/

theorem comes_of_option (hini : ini.IsDistinct) {name opt given usual : Text} {got : Option Text}
    (hgot : option ini name opt = .ok got) (f : Text → Text) :
    Comes ini name opt given (fun cs => .ok (f cs)) usual
      (if given.isEmpty then (got.map f).getD usual else f given) := by
  cases given with
  | cons c given => exact .environment (List.cons_ne_nil c given) rfl
  | nil =>
    have hget := mapError_eq_ok.mp hgot
    cases got with
    | none => exact .usual rfl (Ini.not_has_of_get? hini hget)
    | some cs =>
      obtain ⟨raw, hhas, hmeans⟩ := Ini.has_of_get? hini hget
      exact .file rfl hhas hmeans rfl

theorem comes_of_option_plain (hini : ini.IsDistinct) {name opt given usual : Text}
    {got : Option Text} (hgot : option ini name opt = .ok got) :
    Comes ini name opt given .ok usual (if given.isEmpty then got.getD usual else given) := by
  have hcomes : Comes ini name opt given (fun cs => .ok (id cs)) usual
      (if given.isEmpty then (got.map id).getD usual else id given) := comes_of_option hini hgot id
  rw [Option.map_id] at hcomes
  exact hcomes

theorem comes_of_width? (hini : ini.IsDistinct) {name opt given : Text} {w : Option Int}
    {usual n : Int} (hgot : option ini name opt >>= width? = .ok w)
    (hn : (if given.isEmpty then .ok (w.getD usual) else number given) = .ok n) :
    Comes ini name opt given number usual n := by
  cases given with
  | cons c given => exact .environment (List.cons_ne_nil c given) hn
  | nil =>
    cases hn
    obtain ⟨value, hvalue, hgot⟩ := bind_eq_ok.mp hgot
    have hget := mapError_eq_ok.mp hvalue
    cases value with
    | none =>
      cases hgot
      exact .usual rfl (Ini.not_has_of_get? hini hget)
    | some cs =>
      obtain ⟨raw, hhas, hmeans⟩ := Ini.has_of_get? hini hget
      obtain ⟨m, hm, rfl⟩ := map_eq_ok.mp hgot
      exact .file rfl hhas hmeans hm

theorem ofName?_eq_some {cs : Text} {style : Journal.Style} :
    Journal.Style.ofName? cs = some style ↔ cs = style.name := by
  have hdistinct : Journal.Style.simple.name ≠ Journal.Style.detailed.name := by decide
  unfold Journal.Style.ofName?
  cases style <;> grind

theorem styleComes_of_option (hini : ini.IsDistinct) {name opt : Text} {got : Option Text}
    (hgot : option ini name opt = .ok got) (usual : Journal.Style) :
    StyleComes ini name opt usual
      ((got.bind fun cs => Journal.Style.ofName? (Text.toLower cs)).getD usual) := by
  have hget := mapError_eq_ok.mp hgot
  cases got with
  | none => exact .usual (Ini.not_has_of_get? hini hget)
  | some cs =>
    obtain ⟨raw, hhas, hmeans⟩ := Ini.has_of_get? hini hget
    rw [Option.bind_some]
    cases hname : Journal.Style.ofName? (Text.toLower cs) with
    | none =>
      refine .unknown hhas hmeans fun style hstyle => ?_
      rw [ofName?_eq_some.mpr hstyle] at hname
      cases hname
    | some style => exact .file hhas hmeans (ofName?_eq_some.mp hname)

theorem promptFormat_comes (hini : ini.IsDistinct) (usual : Text) :
    ini.Has "display" "prompt_format" ((ini.raw? "display" "prompt_format").getD usual) ∨
      (∀ raw, ¬ ini.Has "display" "prompt_format" raw) ∧
        (ini.raw? "display" "prompt_format").getD usual = usual := by
  cases hraw : ini.raw? "display" "prompt_format" with
  | none => exact .inr ⟨(Ini.raw?_eq_none hini).mp hraw, rfl⟩
  | some raw => exact .inl ((Ini.raw?_eq_some hini).mp hraw)

theorem withEnvironment_eq (s : Settings) (e : Environment) : s.withEnvironment e =
    (if e.lineWidth.isEmpty then .ok s.lineWidth else number e.lineWidth).map fun lineWidth =>
      { s with
        directory := if e.directory.isEmpty then s.directory else e.directory
        manifest := if e.manifest.isEmpty then s.manifest else e.manifest
        lineWidth
        logLevel := if e.logLevel.isEmpty then s.logLevel else Text.toUpper e.logLevel } := by
  unfold withEnvironment
  by_cases hempty : e.lineWidth.isEmpty
  · simp only [hempty, if_true]
    rfl
  · simp only [hempty]
    cases number e.lineWidth <;> rfl

/-- Where settings come of it, everything that is looked up has been got. -/
theorem exists_of_settle {got : Overridable → Except Failure (Option Text)} {promptFormat : Option Text}
    {logStyle : Except Failure (Option Text)} (h : settle e got promptFormat logStyle = .ok s) :
    ∃ d m w l f n, got .directory = .ok d ∧ got .manifest = .ok m ∧
      got .lineWidth >>= width? = .ok w ∧ got .logLevel = .ok l ∧ logStyle = .ok f ∧
      (if e.lineWidth.isEmpty then .ok (w.getD ({} : Settings).lineWidth) else number e.lineWidth) =
        .ok n ∧
      s = {
        directory := if e.directory.isEmpty then d.getD ({} : Settings).directory else e.directory
        manifest := if e.manifest.isEmpty then m.getD ({} : Settings).manifest else e.manifest
        lineWidth := n
        promptFormat := promptFormat.getD ({} : Settings).promptFormat
        logLevel := if e.logLevel.isEmpty then (l.map Text.toUpper).getD ({} : Settings).logLevel
          else Text.toUpper e.logLevel
        logStyle := (f.bind fun cs => Journal.Style.ofName? (Text.toLower cs)).getD
          ({} : Settings).logStyle } := by
  obtain ⟨d, hd, h⟩ := bind_eq_ok.mp h
  obtain ⟨m, hm, h⟩ := bind_eq_ok.mp h
  obtain ⟨w, hw, h⟩ := bind_eq_ok.mp h
  obtain ⟨l, hl, h⟩ := bind_eq_ok.mp h
  obtain ⟨f, hf, h⟩ := bind_eq_ok.mp h
  dsimp only at h
  rw [withEnvironment_eq] at h
  obtain ⟨n, hn, rfl⟩ := map_eq_ok.mp h
  exact ⟨d, m, w, l, f, n, hd, hm, hw, hl, hf, hn, rfl⟩

/-- One setting after the other, each from its own variable or option. -/
theorem sourced_of_settled (hini : ini.IsDistinct) (h : settled e ini = .ok s) :
    Sourced ini e s := by
  obtain ⟨d, m, w, l, f, n, hd, hm, hw, hl, hf, hn, rfl⟩ := exists_of_settle h
  exact {
    directory := comes_of_option_plain hini hd
    manifest := comes_of_option_plain hini hm
    lineWidth := comes_of_width? hini hw hn
    promptFormat := promptFormat_comes hini _
    logLevel := comes_of_option hini hl Text.toUpper
    logStyle := styleComes_of_option hini hf _ }

/-! ## All settings -/

theorem file_ne_exampleFile (root : Path) : file root ≠ exampleFile root := by
  intro h
  have hnames := congrArg Path.names h
  rw [file, exampleFile, Path.names_join (by decide), Path.names_join (by decide)] at hnames
  exact absurd (List.append_cancel_left hnames) (by decide)

/-- The example is reported exactly where it is chosen. -/
theorem exists_status (h : InForce root t ini) (current : Settings) :
    ∃ status, current.status root t = .ok status ∧
      (status.usingExample = true ↔ chosenFile root t = .ok (some (exampleFile root))) := by
  cases h with
  | own there reads =>
    refine ⟨⟨true, file root, false, current.absoluteDirectory root, current.lineWidth⟩, ?_, ?_⟩
    · rw [status, there]
      rfl
    · rw [chosenFile_own there]
      simp [file_ne_exampleFile]
  | sample absent there reads =>
    refine ⟨⟨false, file root, true, current.absoluteDirectory root, current.lineWidth⟩, ?_, ?_⟩
    · rw [status, absent]
      simp only [there]
      rfl
    · rw [chosenFile_sample absent, there]
      simp [Except.map]
  | neither absent alone =>
    refine ⟨⟨false, file root, false, current.absoluteDirectory root, current.lineWidth⟩, ?_, ?_⟩
    · rw [status, absent]
      simp only [alone]
      rfl
    · rw [chosenFile_sample absent, alone]
      simp [Except.map]

/-- No variable has a say in the setting of another one. -/
structure Apart (e e' : Environment) (s s' : Settings) : Prop where
  directory : e'.directory = e.directory → s'.directory = s.directory
  manifest : e'.manifest = e.manifest → s'.manifest = s.manifest
  lineWidth : e'.lineWidth = e.lineWidth → s'.lineWidth = s.lineWidth
  promptFormat : s'.promptFormat = s.promptFormat
  logLevel : e'.logLevel = e.logLevel → s'.logLevel = s.logLevel
  logStyle : s'.logStyle = s.logStyle

theorem apart_of_settled (h : settled e ini = .ok s) (h' : settled e' ini = .ok s') :
    Apart e e' s s' := by
  obtain ⟨d, m, w, l, f, n, hd, hm, hw, hl, hf, hn, rfl⟩ := exists_of_settle h
  obtain ⟨d', m', w', l', f', n', hd', hm', hw', hl', hf', hn', rfl⟩ := exists_of_settle h'
  cases hd.symm.trans hd'
  cases hm.symm.trans hm'
  cases hw.symm.trans hw'
  cases hl.symm.trans hl'
  cases hf.symm.trans hf'
  refine ⟨fun he => by rw [he], fun he => by rw [he], fun he => ?_, rfl, fun he => by rw [he], rfl⟩
  rw [he] at hn'
  cases hn.symm.trans hn'
  rfl

/-- Where settings are loaded, one INI file is in force: the own one if it is there, or else the example
if that is there. Every setting is that of its variable if it is not empty, or else what the file says,
where it has the section and the option, in the section itself or the default one, or else the usual
one. While there is an own file nothing else in the tree has a say in what comes of loading, and a status
reports the example exactly where it is the file that is chosen. In another environment, no setting differs
whose own variable does not. -/
theorem load_sources (h : load root t e = .ok s) :
    (∃ ini, InForce root t ini ∧ Sourced ini e s) ∧
    (t.isThere (file root) = .ok true →
      ∀ t' : Tree, t'.isThere (file root) = .ok true → t'.read (file root) = t.read (file root) →
        ∀ e' : Environment, load root t' e' = load root t e') ∧
    (∀ current : Settings, ∃ status, current.status root t = .ok status ∧
      (status.usingExample = true ↔ chosenFile root t = .ok (some (exampleFile root)))) ∧
    ∀ (e' : Environment) (s' : Settings), load root t e' = .ok s' → Apart e e' s s' := by
  obtain ⟨ini, hini⟩ := exists_inForce h
  rw [load_eq_settled hini] at h
  refine ⟨⟨ini, hini, sourced_of_settled hini.isDistinct h⟩, ?_, exists_status hini, ?_⟩
  · intro there t' there' hread e'
    exact load_own there there' hread e'
  · intro e' s' h'
    rw [load_eq_settled hini] at h'
    exact apart_of_settled h h'

/-- A file that refers to an option and has a default section. -/
def referring : Text :=
  "[display]\nline_width=%(w)s\nw=9\n[DEFAULT]\nlevel=info\n[logging]\nformat=Detailed"

def twoFiles : Tree :=
  { entries := [
      (["config".toList], .directory),
      (["config".toList, "game.ini".toList], .file (Utf8.encode referring)),
      (["config".toList, "game.example.ini".toList], .file (Utf8.encode "[stories]\nmanifest=index"))] }

/-- The width is that of the file, the level that of its default section, and the directory that of its
variable. -/
theorem load_sources_twoFiles :
    let e : Environment := { directory := ['/', 's'] }
    let s : Settings :=
      { directory := ['/', 's'], lineWidth := 9, logLevel := "INFO", logStyle := .detailed }
    load (Path.ofText ['/']) twoFiles e = .ok s ∧
      ∃ ini, InForce (Path.ofText ['/']) twoFiles ini ∧ Sourced ini e s := by
  intro e s
  obtain ⟨ini, hini, hsettled⟩ : ∃ ini, Ini.ofReading ⟨referring, none⟩ = .ok ini ∧
      settled e ini = .ok s := by
    refine ⟨⟨["display".toList, "logging".toList], [
      ⟨"display", "line_width", "%(w)s"⟩, ⟨"display", "w", "9"⟩, ⟨"DEFAULT", "level", "info"⟩,
      ⟨"logging", "format", "Detailed"⟩]⟩, ?_, ?_⟩
    · decide +kernel
    · decide +kernel
  have hforce : InForce (Path.ofText ['/']) twoFiles ini := by
    have hread : twoFiles.read (file (Path.ofText ['/'])) = .ok (Utf8.encode referring) := by cbv
    refine .own (by cbv) ?_
    rw [readFile_of_encode hread (by decide), hini]
    rfl
  have h : load (Path.ofText ['/']) twoFiles e = .ok s := by rw [load_eq_settled hforce, hsettled]
  exact ⟨h, (load_sources h).1⟩

end StoryBlanks.Settings
