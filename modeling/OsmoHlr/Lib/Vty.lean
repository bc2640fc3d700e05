import OsmoHlr.Lib.CString
import OsmoHlr.Lib.Decimal

/-!
# Commands in nodes, and files of them

A command line interface has nodes, each with the commands that are installed in
it.  A command is described by its keywords and arguments, and may enter a child
node.  A file of commands has one on each line, and the lines of a child node are
indented below the command that entered it.

* `accept` — whether the words of a line match a command, and its arguments.
* `readLines` — a file is read line by line, up to the first that is not accepted.
* `wordsOf_render`, `indentOf_render` — what is written as words is read as words.
* `Reads` — what holds before and after lines are read, with a rule for each way
  that a file is put together.
-/

namespace Vty

open CString

/-! ## Commands -/

/-- A piece of the description of a command. -/
inductive Elem where
  /-- A word as it stands. -/
  | keyword (word : CStr)
  /-- Any word, as in `NAME`. -/
  | var
  /-- A number, as in `<1-65535>`. -/
  | range (lo hi : Nat)
  /-- A word that may be missing at the end, as in `[IP]`. -/
  | optVar
  /-- A number that may be missing at the end, as in `[<1-65535>]`. -/
  | optRange (lo hi : Nat)
  /-- One word or more, as in `.NAME`. -/
  | rest
  deriving DecidableEq

/-- A number of a range. -/
def inRange (lo hi : Nat) (word : CStr) : Bool :=
  word.bytes ≠ [] && word.bytes.all Decimal.isDigit &&
    decide (lo ≤ Decimal.digitsValue word.bytes) && decide (Decimal.digitsValue word.bytes ≤ hi)

/-- The arguments in the words of a line, if it matches. -/
def accept : List Elem → List CStr → Option (List CStr)
  | [], [] => some []
  | [], _ :: _ => none
  | .keyword _ :: _, [] => none
  | .keyword word :: es, w :: ws => if w = word then accept es ws else none
  | .var :: _, [] => none
  | .var :: es, w :: ws => (accept es ws).map (w :: ·)
  | .range _ _ :: _, [] => none
  | .range lo hi :: es, w :: ws =>
      if inRange lo hi w then (accept es ws).map (w :: ·) else none
  | .optVar :: es, [] => accept es []
  | .optVar :: es, w :: ws => (accept es ws).map (w :: ·)
  | .optRange _ _ :: es, [] => accept es []
  | .optRange lo hi :: es, w :: ws =>
      if inRange lo hi w then (accept es ws).map (w :: ·) else none
  | .rest :: _, [] => none
  | .rest :: _, w :: ws => some (w :: ws)

section Accept

variable {es : List Elem} {w : CStr} {ws argv : List CStr} {lo hi : Nat}

theorem accept_nil_iff : accept [] ws = some argv ↔ ws = [] ∧ argv = [] := by
  cases ws with
  | nil => simp [accept, eq_comm]
  | cons w ws => simp [accept]

theorem accept_keyword_iff :
    accept (.keyword w :: es) ws = some argv ↔
      ∃ ws', ws = w :: ws' ∧ accept es ws' = some argv := by
  cases ws with
  | nil => simp [accept]
  | cons w' ws =>
      by_cases hw : w' = w
      · simp [accept, hw]
      · simp [accept, hw]

theorem accept_var_iff :
    accept (.var :: es) ws = some argv ↔
      ∃ w ws' argv', ws = w :: ws' ∧ argv = w :: argv' ∧ accept es ws' = some argv' := by
  cases ws with
  | nil => simp [accept]
  | cons w ws =>
      rw [accept, Option.map_eq_some_iff]
      constructor
      · rintro ⟨argv', hrest, rfl⟩
        exact ⟨w, ws, argv', rfl, rfl, hrest⟩
      · rintro ⟨w', ws', argv', hws, rfl, hrest⟩
        cases hws
        exact ⟨argv', hrest, rfl⟩

theorem accept_range_iff :
    accept (.range lo hi :: es) ws = some argv ↔
      ∃ w ws' argv', ws = w :: ws' ∧ argv = w :: argv' ∧ inRange lo hi w = true ∧
        accept es ws' = some argv' := by
  cases ws with
  | nil => simp [accept]
  | cons w ws =>
      rw [accept]
      constructor
      · intro h
        split at h
        next hw =>
            obtain ⟨argv', hrest, rfl⟩ := Option.map_eq_some_iff.1 h
            exact ⟨w, ws, argv', rfl, rfl, hw, hrest⟩
        next => cases h
      · rintro ⟨w', ws', argv', hws, rfl, hw, hrest⟩
        cases hws
        rw [if_pos hw, hrest]
        rfl

/-- Arguments that may be missing are missing, or there. -/
theorem accept_optVar_iff :
    accept (.optVar :: es) ws = some argv ↔
      ws = [] ∧ accept es [] = some argv ∨ accept (.var :: es) ws = some argv := by
  cases ws with
  | nil => simp [accept]
  | cons w ws => simp [accept]

theorem accept_optRange_iff :
    accept (.optRange lo hi :: es) ws = some argv ↔
      ws = [] ∧ accept es [] = some argv ∨ accept (.range lo hi :: es) ws = some argv := by
  cases ws with
  | nil => simp [accept]
  | cons w ws => simp [accept]

/-- The arguments are words of the line. -/
theorem mem_of_mem_accept (h : accept es ws = some argv) : ∀ a ∈ argv, a ∈ ws := by
  induction es generalizing ws argv with
  | nil =>
      obtain ⟨rfl, rfl⟩ := accept_nil_iff.1 h
      exact fun _ ha => ha
  | cons e es ih =>
      have hvar : accept (.var :: es) ws = some argv → ∀ a ∈ argv, a ∈ ws := by
        intro hvar a ha
        obtain ⟨w, ws', argv', rfl, rfl, hrest⟩ := accept_var_iff.1 hvar
        exact List.mem_cons.2 ((List.mem_cons.1 ha).imp id (ih hrest a))
      have hrange : ∀ lo hi, accept (.range lo hi :: es) ws = some argv → ∀ a ∈ argv, a ∈ ws := by
        intro lo hi hrange a ha
        obtain ⟨w, ws', argv', rfl, rfl, -, hrest⟩ := accept_range_iff.1 hrange
        exact List.mem_cons.2 ((List.mem_cons.1 ha).imp id (ih hrest a))
      cases e with
      | keyword w =>
          obtain ⟨ws', rfl, hrest⟩ := accept_keyword_iff.1 h
          exact fun a ha => List.mem_cons_of_mem _ (ih hrest a ha)
      | var => exact hvar h
      | range lo hi => exact hrange lo hi h
      | optVar =>
          rcases accept_optVar_iff.1 h with ⟨rfl, hrest⟩ | hrest
          · exact ih hrest
          · exact hvar hrest
      | optRange lo hi =>
          rcases accept_optRange_iff.1 h with ⟨rfl, hrest⟩ | hrest
          · exact ih hrest
          · exact hrange lo hi hrest
      | rest =>
          cases ws with
          | nil => cases h
          | cons w ws =>
              cases h
              exact fun _ ha => ha

end Accept

/-- A command line interface: nodes `ν`, commands `κ`, and what they work on. -/
structure Interface (ν κ σ : Type) where
  installed : ν → List κ
  elems : κ → List Elem
  /-- What a command with its arguments does, and the child node that it enters.  `none`: what it
  does is not defined. -/
  exec : ν → κ → List CStr → σ → Option (σ × Option ν)

/-! ## Lines -/

/-- `' '` -/
def blank : UInt8 := 32

/-- How far a line is indented. -/
def indentOf (line : List UInt8) : Nat := (line.takeWhile (· = blank)).length

/-- The words of a line. -/
def wordsOf (line : List UInt8) : List CStr :=
  ((line.splitOn blank).filter (· ≠ [])).map CStr.ofBytes

/-- Words on a line. -/
def render (indent : Nat) (words : List CStr) : List UInt8 :=
  List.replicate indent blank ++ [blank].intercalate (words.map CStr.bytes)

/-- A word can be written between blanks. -/
def IsWord (word : CStr) : Prop := word.bytes ≠ [] ∧ blank ∉ word.bytes

instance (word : CStr) : Decidable (IsWord word) :=
  inferInstanceAs (Decidable (word.bytes ≠ [] ∧ blank ∉ word.bytes))

section Render

variable {words : List CStr} {indent : Nat}

theorem splitOn_replicate_append (indent : Nat) (line : List UInt8) :
    (List.replicate indent blank ++ line).splitOn blank =
      List.replicate indent [] ++ line.splitOn blank := by
  induction indent with
  | zero => rfl
  | succ indent ih =>
      rw [List.replicate_succ, List.cons_append, List.splitOn_cons_eq_if_modifyHead,
        if_pos (by simp), ih]
      rfl

theorem filter_replicate_append (indent : Nat) (l : List (List UInt8)) :
    (List.replicate indent [] ++ l).filter (· ≠ []) = l.filter (· ≠ []) := by
  rw [List.filter_append, List.filter_replicate]
  rfl

/-- **What is written as words is read as the same words.** -/
theorem wordsOf_render (hwords : ∀ w ∈ words, IsWord w) :
    wordsOf (render indent words) = words := by
  rw [wordsOf, render, splitOn_replicate_append, filter_replicate_append]
  cases words with
  | nil => rfl
  | cons w ws =>
      have hblank : ∀ l ∈ (w :: ws).map CStr.bytes, blank ∉ l := by
        intro l hl
        obtain ⟨w', hw', rfl⟩ := List.mem_map.1 hl
        exact (hwords w' hw').2
      have hne : ∀ l ∈ (w :: ws).map CStr.bytes, decide (l ≠ []) = true := by
        intro l hl
        obtain ⟨w', hw', rfl⟩ := List.mem_map.1 hl
        exact decide_eq_true (hwords w' hw').1
      rw [List.splitOn_intercalate blank hblank (by simp), List.filter_eq_self.2 hne,
        List.map_map]
      exact (List.map_congr_left fun w _ => CStr.ofBytes_bytes w).trans (List.map_id _)

/-- Words behind words. -/
theorem render_append {words' : List CStr} (indent : Nat) (hne : words ≠ []) (hne' : words' ≠ []) :
    render indent (words ++ words') = render indent words ++ blank :: render 0 words' := by
  have hint : ∀ l m : List (List UInt8), l ≠ [] → m ≠ [] →
      [blank].intercalate (l ++ m) = [blank].intercalate l ++ blank :: [blank].intercalate m := by
    intro l m hl hm
    induction l with
    | nil => exact absurd rfl hl
    | cons x l ih =>
        by_cases hnil : l = []
        · rw [hnil, List.singleton_append, List.intercalate_cons_of_ne_nil hm,
            List.intercalate_singleton, List.append_assoc]
          rfl
        · rw [List.cons_append, List.intercalate_cons_of_ne_nil (by simp [hnil]), ih hnil,
            List.intercalate_cons_of_ne_nil hnil]
          simp only [List.append_assoc]
  rw [render, List.map_append, hint _ _ (by simpa using hne) (by simpa using hne'), render,
    List.append_assoc]
  rfl

/-- The first word of a line is read, whatever is behind it. -/
theorem wordsOf_first {word : CStr} (hword : IsWord word) (indent : Nat) (rest : List UInt8) :
    wordsOf (List.replicate indent blank ++ (word.bytes ++ blank :: rest)) =
      word :: wordsOf rest := by
  have hfilter : ∀ l : List (List UInt8), (word.bytes :: l).filter (· ≠ []) =
      word.bytes :: l.filter (· ≠ []) :=
    fun l => List.filter_cons_of_pos (decide_eq_true hword.1)
  rw [wordsOf, splitOn_replicate_append, filter_replicate_append,
    List.splitOn_append_cons_self_of_not_mem hword.2, hfilter, List.map_cons, CStr.ofBytes_bytes]
  rfl

theorem indentOf_first {word : CStr} (hword : IsWord word) (indent : Nat) (rest : List UInt8) :
    indentOf (List.replicate indent blank ++ (word.bytes ++ rest)) = indent := by
  obtain ⟨c, t, hbytes⟩ := List.exists_cons_of_ne_nil hword.1
  have hc : c ≠ blank := by
    rintro rfl
    refine hword.2 ?_
    rw [hbytes]
    exact List.mem_cons_self
  have hfirst : (c :: (t ++ rest)).takeWhile (· = blank) = [] :=
    List.takeWhile_cons_of_neg (by simpa using hc)
  have hall : ∀ c ∈ List.replicate indent blank, decide (c = blank) = true := fun c hc =>
    decide_eq_true (List.eq_of_mem_replicate hc)
  rw [indentOf, List.takeWhile_append_of_pos hall, hbytes, List.cons_append, hfirst,
    List.append_nil, List.length_replicate]

theorem indentOf_render (hwords : ∀ w ∈ words, IsWord w) (hne : words ≠ []) :
    indentOf (render indent words) = indent := by
  cases words with
  | nil => exact absurd rfl hne
  | cons w ws =>
      obtain ⟨rest, hrest⟩ : ∃ rest, [blank].intercalate ((w :: ws).map CStr.bytes) =
          w.bytes ++ rest := by
        cases ws with
        | nil => exact ⟨[], by simp⟩
        | cons w' ws =>
            refine ⟨[blank] ++ [blank].intercalate ((w' :: ws).map CStr.bytes), ?_⟩
            rw [List.map_cons, List.intercalate_cons_of_ne_nil (by simp), List.append_assoc]
      rw [render, hrest]
      exact indentOf_first (hwords w List.mem_cons_self) indent rest

end Render

/-! ## Numbers -/

/-- A number, as a word. -/
def number (n : Nat) : CStr := CStr.ofBytes (Decimal.printDec n)

@[simp] theorem bytes_number (n : Nat) : (number n).bytes = Decimal.printDec n := by
  refine CStr.ofBytes_bytes_of_noNul ?_
  intro h0
  exact Decimal.ne_of_mem_printDec h0 (by decide) rfl

theorem isWord_number (n : Nat) : IsWord (number n) := by
  rw [IsWord, bytes_number]
  refine ⟨Decimal.printDec_ne_nil n, ?_⟩
  intro hblank
  exact Decimal.ne_of_mem_printDec hblank (by decide) rfl

/-- A number of a range is written as one. -/
theorem inRange_number {lo hi n : Nat} (hlo : lo ≤ n) (hhi : n ≤ hi) :
    inRange lo hi (number n) = true := by
  have hall : (Decimal.printDec n).all Decimal.isDigit = true :=
    List.all_eq_true.2 Decimal.isDigit_of_mem_printDec
  simp [inRange, Decimal.printDec_ne_nil, Decimal.digitsValue_printDec, hall, hlo, hhi]

theorem digitsValue_of_inRange {lo hi : Nat} {word : CStr} (h : inRange lo hi word = true) :
    lo ≤ Decimal.digitsValue word.bytes ∧ Decimal.digitsValue word.bytes ≤ hi := by
  simp only [inRange, Bool.and_eq_true, decide_eq_true_eq] at h
  exact ⟨h.1.2, h.2⟩

/-! ## Files -/

variable {ν κ σ : Type}

/-- Where a file has been read to. -/
structure Reader (ν σ : Type) where
  state : σ
  /-- The node of the last line, and its indentation. -/
  node : ν
  indent : Nat
  /-- The nodes around it, with the indentation of their lines. -/
  parents : List (Nat × ν)
  /-- The child node that the last line has entered. -/
  child : Option ν

/-- The start of a file. -/
def Reader.start (state : σ) (node : ν) : Reader ν σ := ⟨state, node, 0, [], none⟩

/-- The node of a line with a given indentation. -/
def Reader.goTo (r : Reader ν σ) (indent : Nat) : Option (Reader ν σ) :=
  if indent = r.indent then some r
  else if r.indent < indent then
    r.child.map fun child => ⟨r.state, child, indent, (r.indent, r.node) :: r.parents, none⟩
  else
    match r.parents.dropWhile fun p => indent < p.1 with
    | (i, node) :: parents =>
        if i = indent then some ⟨r.state, node, indent, parents, none⟩ else none
    | [] => none

section GoTo

variable {r : Reader ν σ} {child : ν} {indent : Nat}

theorem Reader.goTo_same (r : Reader ν σ) : r.goTo r.indent = some r := if_pos rfl

/-- The first line of a child node. -/
theorem Reader.goTo_child (hchild : r.child = some child) (hindent : r.indent < indent) :
    r.goTo indent = some ⟨r.state, child, indent, (r.indent, r.node) :: r.parents, none⟩ := by
  rw [Reader.goTo, if_neg (Nat.ne_of_gt hindent), if_pos hindent, hchild]
  rfl

/-- The first line behind a child node. -/
theorem Reader.goTo_parent {node : ν} {parents : List (Nat × ν)}
    (hparents : r.parents = (indent, node) :: parents) (hindent : indent < r.indent) :
    r.goTo indent = some ⟨r.state, node, indent, parents, none⟩ := by
  rw [Reader.goTo, if_neg (Nat.ne_of_lt hindent), if_neg (Nat.lt_asymm hindent), hparents,
    List.dropWhile_cons_of_neg (by simp)]
  exact if_pos rfl

/-- Going to the node of a line does nothing yet. -/
theorem Reader.state_goTo {r' : Reader ν σ} (h : r.goTo indent = some r') : r'.state = r.state := by
  unfold Reader.goTo at h
  split at h
  next =>
      cases h
      rfl
  next =>
      split at h
      next =>
          obtain ⟨c, -, rfl⟩ := Option.map_eq_some_iff.1 h
          rfl
      next =>
          split at h
          next =>
              split at h
              next =>
                  cases h
                  rfl
              next => cases h
          next => cases h

end GoTo

variable (face : Interface ν κ σ)

/-- The command of a node that words match. -/
def findCommand (node : ν) (words : List CStr) : Option (κ × List CStr) :=
  (face.installed node).findSome? fun c => (accept (face.elems c) words).map fun argv => (c, argv)

variable {face} in
/-- A command that is found is installed, and the words match it. -/
theorem findCommand_eq_some {node : ν} {words argv : List CStr} {c : κ}
    (h : findCommand face node words = some (c, argv)) :
    c ∈ face.installed node ∧ accept (face.elems c) words = some argv := by
  obtain ⟨c', hc', h'⟩ := List.exists_of_findSome?_eq_some h
  obtain ⟨argv', haccept, heq⟩ := Option.map_eq_some_iff.1 h'
  cases heq
  exact ⟨hc', haccept⟩

/-- A line, in its node. -/
def execLine (r : Reader ν σ) (words : List CStr) : Option (Reader ν σ) :=
  match findCommand face r.node words with
  | none => none
  | some (c, argv) =>
      (face.exec r.node c argv r.state).map fun out => { r with state := out.1, child := out.2 }

/-- One line; an empty one is skipped. -/
def readLine (r : Reader ν σ) (line : List UInt8) : Option (Reader ν σ) :=
  if wordsOf line = [] then some r
  else (r.goTo (indentOf line)).bind fun r => execLine face r (wordsOf line)

/-- A file. -/
def readLines : Reader ν σ → List (List UInt8) → Option (Reader ν σ)
  | r, [] => some r
  | r, line :: lines => (readLine face r line).bind fun r => readLines r lines

theorem readLines_append (r : Reader ν σ) (lines lines' : List (List UInt8)) :
    readLines face r (lines ++ lines') =
      (readLines face r lines).bind fun r => readLines face r lines' := by
  induction lines generalizing r with
  | nil => rfl
  | cons line lines ih =>
      rw [List.cons_append, readLines, readLines]
      cases readLine face r line with
      | none => rfl
      | some r => exact ih r

/-- A line that is written as words. -/
theorem readLine_render {words : List CStr} (hwords : ∀ w ∈ words, IsWord w) (hne : words ≠ [])
    (indent : Nat) (r : Reader ν σ) :
    readLine face r (render indent words) =
      (r.goTo indent).bind fun r => execLine face r words := by
  rw [readLine, wordsOf_render hwords, indentOf_render hwords hne, if_neg hne]

/-! ## What reading lines does -/

/-- Wherever `P` holds, the lines are read to where `Q` holds. -/
def Reads (P : Reader ν σ → Prop) (lines : List (List UInt8)) (Q : Reader ν σ → Prop) : Prop :=
  ∀ r, P r → ∃ r', readLines face r lines = some r' ∧ Q r'

section Reads

variable {face} {P Q R : Reader ν σ → Prop} {lines lines' : List (List UInt8)}

theorem Reads.nil (h : ∀ r, P r → Q r) : Reads face P [] Q := fun r hr => ⟨r, rfl, h r hr⟩

theorem Reads.mono {Q' : Reader ν σ → Prop} (h : Reads face P lines Q) (hQ : ∀ r, Q r → Q' r) :
    Reads face P lines Q' := by
  intro r hr
  obtain ⟨r', hread, hr'⟩ := h r hr
  exact ⟨r', hread, hQ r' hr'⟩

/-- **Lines behind lines.** -/
theorem Reads.append (h : Reads face P lines Q) (h' : Reads face Q lines' R) :
    Reads face P (lines ++ lines') R := by
  intro r hr
  obtain ⟨r', hread, hr'⟩ := h r hr
  obtain ⟨r'', hread', hr''⟩ := h' r' hr'
  exact ⟨r'', by rw [readLines_append, hread]; exact hread', hr''⟩

/-- Lines that may be there. -/
theorem Reads.ite {c : Prop} [Decidable c] (h : c → Reads face P lines Q)
    (h' : ¬c → Reads face P lines' Q) : Reads face P (if c then lines else lines') Q := by
  split
  next hc => exact h hc
  next hc => exact h' hc

/-- **A line of words**: it is read in the node of its indentation, by the command that is found
there. -/
theorem Reads.line {indent : Nat} {words : List CStr} (hwords : ∀ w ∈ words, IsWord w)
    (hne : words ≠ [])
    (h : ∀ r, P r → ∃ r' c argv out, r.goTo indent = some r' ∧
      findCommand face r'.node words = some (c, argv) ∧
      face.exec r'.node c argv r'.state = some out ∧
      Q { r' with state := out.1, child := out.2 }) :
    Reads face P [render indent words] Q := by
  intro r hr
  obtain ⟨r', c, argv, out, hgo, hfind, hexec, hq⟩ := h r hr
  refine ⟨{ r' with state := out.1, child := out.2 }, ?_, hq⟩
  have hline : readLine face r (render indent words) =
      some { r' with state := out.1, child := out.2 } := by
    rw [readLine_render face hwords hne, hgo, Option.bind_some, execLine, hfind]
    simp only [hexec, Option.map_some]
  rw [readLines, hline]
  rfl

/-- A line that no command of its node matches ends it. -/
theorem readLine_eq_none {r : Reader ν σ} (r' : Reader ν σ) {line : List UInt8}
    (hwords : wordsOf line ≠ []) (hgo : r.goTo (indentOf line) = some r')
    (hfind : findCommand face r'.node (wordsOf line) = none) :
    readLine face r line = none := by
  rw [readLine, if_neg hwords, hgo, Option.bind_some, execLine, hfind]

/-- What is behind such a line is not read. -/
theorem Reads.reject (h : Reads face P lines Q) {line : List UInt8}
    (hline : ∀ r, Q r → readLine face r line = none) (lines' : List (List UInt8))
    {r : Reader ν σ} (hr : P r) : readLines face r (lines ++ line :: lines') = none := by
  obtain ⟨r', hread, hq⟩ := h r hr
  rw [readLines_append, hread, Option.bind_some, readLines, hline r' hq]
  rfl

end Reads

end Vty
