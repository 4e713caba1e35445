import StoryBlanks.Template
import Mathlib.Data.List.Basic

/-!
# The symbols of a template

A template is a word over literal letters and whole blanks, and how its letters are grouped into
runs does not matter for what it says. Main statement: every word of readable symbols is read back
as it was written, whatever stands next to what; so no brace of one symbol is ever paired with a
brace of another.
-/
namespace StoryBlanks.Template

/-- A literal letter or a whole blank. -/
inductive Symbol where
  | letter (c : Char)
  | blank (label : Text)
  deriving DecidableEq, Repr

namespace Symbol

def write : Symbol → Text
  | letter c => [c]
  | blank l => '{' :: (l ++ ['}'])

/-- An opening brace is a letter like any other; a closing brace only ends a blank. -/
def Readable : Symbol → Prop
  | letter c => c ≠ '}'
  | blank l => '{' ∉ l ∧ '}' ∉ l

def label? : Symbol → Option Text
  | letter _ => none
  | blank l => some l

end Symbol

def letters (t : Text) : List Symbol := t.map .letter

def write (xs : List Symbol) : Text := xs.flatMap Symbol.write

def blanks (xs : List Symbol) : List Text := xs.filterMap Symbol.label?

def Token.symbols : Token → List Symbol
  | .run _ _ t => letters t
  | .blank _ _ l => [.blank l]

def symbols (ts : List Token) : List Symbol := ts.flatMap Token.symbols

/-- The template that a token list was cut from. -/
def render (ts : List Token) : Text := ts.flatMap Token.render

@[simp] theorem letters_nil : letters [] = [] := rfl
@[simp] theorem letters_cons (c : Char) (t : Text) : letters (c :: t) = .letter c :: letters t := rfl
@[simp] theorem letters_append (t u : Text) : letters (t ++ u) = letters t ++ letters u := by
  simp [letters]

@[simp] theorem write_nil : write [] = [] := rfl
@[simp] theorem write_cons (x : Symbol) (xs : List Symbol) :
    write (x :: xs) = x.write ++ write xs := rfl
@[simp] theorem write_append (xs ys : List Symbol) : write (xs ++ ys) = write xs ++ write ys := by
  simp [write]

@[simp] theorem write_letters (t : Text) : write (letters t) = t := by
  induction t with
  | nil => rfl
  | cons c t ih => rw [letters_cons, write_cons, ih]; rfl

@[simp] theorem symbols_nil : symbols [] = [] := rfl
@[simp] theorem symbols_cons (x : Token) (ts : List Token) :
    symbols (x :: ts) = x.symbols ++ symbols ts := rfl
@[simp] theorem symbols_append (ts us : List Token) :
    symbols (ts ++ us) = symbols ts ++ symbols us := by
  simp [symbols]

@[simp] theorem render_nil : render [] = [] := rfl
@[simp] theorem render_cons (x : Token) (ts : List Token) :
    render (x :: ts) = x.render ++ render ts := rfl
@[simp] theorem render_append (ts us : List Token) : render (ts ++ us) = render ts ++ render us := by
  simp [render]

/-- Cutting the letters into runs does not change what is written. -/
theorem write_symbols (ts : List Token) : write (symbols ts) = render ts := by
  induction ts with
  | nil => rfl
  | cons x ts ih =>
    rw [symbols_cons, write_append, render_cons, ih]
    cases x with
    | run s e t => simp [Token.symbols, Token.render]
    | blank s e l => simp [Token.symbols, Token.render, Symbol.write]

@[simp] theorem blanks_nil : blanks [] = [] := rfl
@[simp] theorem blanks_letter (c : Char) (xs : List Symbol) :
    blanks (.letter c :: xs) = blanks xs := rfl
@[simp] theorem blanks_blank (l : Text) (xs : List Symbol) :
    blanks (.blank l :: xs) = l :: blanks xs := rfl
@[simp] theorem blanks_append (xs ys : List Symbol) : blanks (xs ++ ys) = blanks xs ++ blanks ys := by
  simp [blanks]

@[simp] theorem blanks_letters (t : Text) : blanks (letters t) = [] := by
  induction t with
  | nil => rfl
  | cons c t ih => rw [letters_cons, blanks_letter, ih]

theorem blanks_symbols (ts : List Token) : blanks (symbols ts) = ts.filterMap Token.label? := by
  induction ts with
  | nil => rfl
  | cons x ts ih =>
    rw [symbols_cons, blanks_append, ih, List.filterMap_cons]
    cases x <;> simp [Token.symbols, Token.label?]

/-! ## The scanner -/

/-- All that was read since the last blank, newest character first, as it would stand if the blank
that is open were never closed. -/
def held (run : Text) : Option Text → Text
  | none => run
  | some l => l ++ '{' :: run

theorem symbols_flush (start : Nat) (run : Text) :
    symbols (flush start run) = letters run.reverse := by
  unfold flush
  split
  · next h => simp [List.isEmpty_iff.mp h]
  · simp [Token.symbols]

theorem scan_nil (start : Nat) (run : Text) (slot : Option Text) :
    scan start run slot [] = .ok (flush start (held run slot)) := by
  cases slot <;> rfl

/-- An opening brace gives up the blank that is open, if any, and opens one. -/
theorem scan_open (start : Nat) (run : Text) (slot : Option Text) (cs : Text) :
    scan start run slot ('{' :: cs) = scan start (held run slot) (some []) cs := by
  cases slot <;> simp [scan, held]

/-- A character that is no brace goes to the label of the open blank or else to the run. -/
theorem scan_plain (start : Nat) (run : Text) (slot : Option Text) {c : Char}
    (ho : c ≠ '{') (hc : c ≠ '}') :
    ∃ run' slot', held run' slot' = c :: held run slot ∧
      (∀ l' ∈ slot', ∃ l ∈ slot, l' = c :: l) ∧
      ∀ cs, scan start run slot (c :: cs) = scan start run' slot' cs := by
  cases slot with
  | none => exact ⟨c :: run, none, rfl, by simp, fun cs => by simp [scan, ho, hc]⟩
  | some l => exact ⟨run, some (c :: l), rfl, by simp, fun cs => by simp [scan, ho, hc]⟩

theorem scan_label (start : Nat) (run : Text) {l : Text} (ho : '{' ∉ l) (hc : '}' ∉ l)
    (read cs : Text) :
    scan start run (some read) (l ++ cs) = scan start run (some (l.reverse ++ read)) cs := by
  induction l generalizing read with
  | nil => rfl
  | cons c l ih =>
    simp only [List.mem_cons, not_or] at ho hc
    rw [List.cons_append, scan, if_neg (Ne.symm ho.1), if_neg (Ne.symm hc.1)]
    simp [ih ho.2 hc.2]

/-- A closing brace ends the open blank, and the scanner begins anew behind it. -/
theorem scan_close (start : Nat) (run l cs : Text) {rest : List Token}
    (h : scan (start + run.length + l.length + 2) [] none cs = .ok rest) :
    scan start run (some l) ('}' :: cs) =
      .ok (flush start run ++ .blank (start + run.length) (start + run.length + l.length + 2)
        l.reverse :: rest) := by
  simp [scan, h]

/-- What was held becomes letters and the symbols to come are read one by one: by induction on
them, since each is either a character or a whole blank. -/
theorem scan_write {xs : List Symbol} (hx : ∀ x ∈ xs, x.Readable) (start : Nat) (run : Text)
    (slot : Option Text) :
    ∃ ts, scan start run slot (write xs) = .ok ts ∧
      symbols ts = letters (held run slot).reverse ++ xs := by
  induction xs generalizing start run slot with
  | nil => exact ⟨_, scan_nil start run slot, by simp [symbols_flush]⟩
  | cons x xs ih =>
    have hxs : ∀ y ∈ xs, y.Readable := fun y hy => hx y (by simp [hy])
    cases x with
    | letter c =>
      by_cases ho : c = '{'
      -- As a letter the brace opens a blank that nothing closes.
      · subst ho
        obtain ⟨ts, hts, hsym⟩ := ih hxs start (held run slot) (some [])
        refine ⟨ts, (scan_open start run slot (write xs)).trans hts, ?_⟩
        simpa [held] using hsym
      · have hc : c ≠ '}' := hx (.letter c) (by simp)
        obtain ⟨run', slot', hheld, -, hscan⟩ := scan_plain start run slot ho hc
        obtain ⟨ts, hts, hsym⟩ := ih hxs start run' slot'
        refine ⟨ts, (hscan (write xs)).trans hts, ?_⟩
        simpa [hheld] using hsym
    | blank l =>
      obtain ⟨ho, hc⟩ : '{' ∉ l ∧ '}' ∉ l := hx (.blank l) (by simp)
      obtain ⟨rest, hrest, hsym⟩ :=
        ih hxs (start + (held run slot).length + l.length + 2) [] none
      have hw : write (.blank l :: xs) = '{' :: (l ++ '}' :: write xs) := by simp [Symbol.write]
      rw [hw, scan_open, scan_label start _ ho hc, scan_close start _ _ _ (by simpa using hrest)]
      refine ⟨_, rfl, ?_⟩
      simp [symbols_flush, Token.symbols, hsym, held]

/-- Readable symbols are read back as they were written. -/
theorem tokens_write {xs : List Symbol} (hx : ∀ x ∈ xs, x.Readable) :
    ∃ ts, tokens (write xs) = .ok ts ∧ symbols ts = xs :=
  scan_write hx 0 [] none

end StoryBlanks.Template
