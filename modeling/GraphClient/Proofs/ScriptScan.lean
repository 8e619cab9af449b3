import GraphClient.Proofs.ScriptTexts

/-!
# Scripts under a scanner

A scanner counts the open parentheses of a script and knows whether it is in a quoted text. Over a
script it comes back to where it began without ever falling below, and the dots that it meets
outside of everything are those between the steps.
-/

namespace GraphClient

/-- Where a scanner stands: the parentheses that are open, and whether it is in a quoted text. -/
structure Scanner where
  depth : Int
  quoted : Bool
  deriving DecidableEq

namespace Scanner

def next (s : Scanner) (c : Char) : Scanner :=
  if s.quoted then { s with quoted := c ≠ '\'' }
  else if c = '\'' then { s with quoted := true }
  else if c = '(' then { s with depth := s.depth + 1 }
  else if c = ')' then { s with depth := s.depth - 1 }
  else s

def scan (s : Scanner) (text : List Char) : Scanner := text.foldl next s

/-- Outside of quoted texts, with some parentheses open. -/
def level (depth : Int) : Scanner := ⟨depth, false⟩

/-- The pieces of a text between the dots outside of parentheses and quoted texts. -/
def cut (s : Scanner) : List Char → List (List Char)
  | [] => [[]]
  | c :: rest =>
    if c = '.' ∧ s = level 0 then [] :: cut (s.next c) rest
    else (cut (s.next c) rest).modifyHead (c :: ·)

/-- The pieces of a script; an empty one has none. -/
def segments (text : List Char) : List (List Char) :=
  if text.isEmpty then [] else cut (level 0) text

/-- A property of each character of a text and the scanner before it. -/
def Along (P : Scanner → Char → Prop) (s : Scanner) : List Char → Prop
  | [] => True
  | c :: rest => P s c ∧ Along P (s.next c) rest

variable {P Q : Scanner → Char → Prop} {s : Scanner} {a b : List Char}

lemma scan_append : s.scan (a ++ b) = (s.scan a).scan b := List.foldl_append

lemma along_append : Along P s (a ++ b) ↔ Along P s a ∧ Along P (s.scan a) b := by
  induction a generalizing s with
  | nil => simp [Along, scan]
  | cons c a ih =>
    rw [List.cons_append, Along, Along, ih, and_assoc]
    rfl

lemma Along.mono (h : Along P s a) (hpq : ∀ s c, P s c → Q s c) : Along Q s a := by
  induction a generalizing s with
  | nil => trivial
  | cons c a ih => exact ⟨hpq s c h.1, ih h.2⟩

lemma along_of_fixed (hn : ∀ c ∈ a, s.next c = s) (hp : ∀ c ∈ a, P s c) :
    s.scan a = s ∧ Along P s a := by
  induction a with
  | nil => exact ⟨rfl, trivial⟩
  | cons c a ih =>
    have hc := hn c (List.mem_cons_self ..)
    obtain ⟨hs, ha⟩ := ih (fun c h => hn c (List.mem_cons_of_mem _ h))
      fun c h => hp c (List.mem_cons_of_mem _ h)
    refine ⟨?_, hp c (List.mem_cons_self ..), by rwa [hc]⟩
    change (s.next c).scan a = s
    rw [hc, hs]

/-- A text that leaves the scanner where it found it and never takes it below. -/
structure Closed (text : List Char) : Prop where
  back (d : Int) : (level d).scan text = level d
  above (d : Int) : Along (fun s c => d ≤ (s.next c).depth) (level d) text

/-- A closed text with every dot in parentheses or in a quoted text. -/
structure Solid (text : List Char) : Prop extends Closed text where
  dots (d : Int) : Along (fun s c => c = '.' → s ≠ level d) (level d) text

lemma Closed.append (ha : Closed a) (hb : Closed b) : Closed (a ++ b) where
  back d := by rw [scan_append, ha.back, hb.back]
  above d := along_append.2 ⟨ha.above d, by rw [ha.back]; exact hb.above d⟩

lemma Solid.append (ha : Solid a) (hb : Solid b) : Solid (a ++ b) where
  toClosed := ha.toClosed.append hb.toClosed
  dots d := along_append.2 ⟨ha.dots d, by rw [ha.back]; exact hb.dots d⟩

lemma closed_of_plain (h : ∀ c ∈ a, c ≠ '(' ∧ c ≠ ')' ∧ c ≠ '\'') : Closed a := by
  have hn (d : Int) : ∀ c ∈ a, (level d).next c = level d := fun c hc => by
    obtain ⟨h1, h2, h3⟩ := h c hc
    simp [next, level, h1, h2, h3]
  exact ⟨fun d => (along_of_fixed (P := fun _ _ => True) (hn d) (by simp)).1,
    fun d => (along_of_fixed (hn d) fun c hc => by rw [hn d c hc]; exact Int.le_refl d).2⟩

lemma solid_of_plain (h : ∀ c ∈ a, c ≠ '(' ∧ c ≠ ')' ∧ c ≠ '\'' ∧ c ≠ '.') : Solid a where
  toClosed := closed_of_plain fun c hc => ⟨(h c hc).1, (h c hc).2.1, (h c hc).2.2.1⟩
  dots d := by
    refine (along_of_fixed (fun c hc => ?_) fun c hc hd => absurd hd (h c hc).2.2.2).2
    obtain ⟨h1, h2, h3, -⟩ := h c hc
    simp [next, level, h1, h2, h3]

/-- Between two characters the first of which the second takes back. -/
lemma along_enclosed {o c : Char} {s' : Scanner} (ho : s.next o = s') (hc : s'.next c = s)
    (ha : s'.scan a = s') :
    s.scan (o :: a ++ [c]) = s ∧
      (Along P s (o :: a ++ [c]) ↔ P s o ∧ Along P s' a ∧ P s' c) := by
  refine ⟨?_, ?_⟩
  · change (s.next o).scan (a ++ [c]) = s
    rw [ho, scan_append, ha]
    exact hc
  · rw [List.cons_append, Along, ho, along_append, ha]
    simp [Along]

lemma solid_of_quoted (h : ∀ c ∈ a, c ≠ '\'') : Solid (Scalar.quoted a) := by
  -- between the quotes nothing moves the scanner
  have hin (d : Int) : ∀ c ∈ a, (Scanner.mk d true).next c = ⟨d, true⟩ := fun c hc => by
    simp [next, h c hc]
  have hscan (d : Int) : (Scanner.mk d true).scan a = ⟨d, true⟩ :=
    (along_of_fixed (P := fun _ _ => True) (hin d) (by simp)).1
  have hquote (d : Int) {P : Scanner → Char → Prop} := along_enclosed (P := P) (o := '\'')
    (c := '\'') (s := level d) (by simp [next, level]) (by simp [next, level]) (hscan d)
  refine ⟨⟨fun d => (hquote d (P := fun _ _ => True)).1, fun d => (hquote d).2.2 ?_⟩,
    fun d => (hquote d).2.2 ?_⟩
  · refine ⟨by simp [next, level], (along_of_fixed (hin d) fun c hc => ?_).2, by simp [next]⟩
    exact Int.le_of_eq (by rw [hin d c hc])
  · refine ⟨by simp, (along_of_fixed (hin d) fun c hc => ?_).2, by simp⟩
    simp [level]

lemma solid_of_parentheses (h : Closed a) : Solid ('(' :: a ++ [')']) := by
  have hparen (d : Int) {P : Scanner → Char → Prop} := along_enclosed (P := P) (o := '(')
    (c := ')') (s := level d) (by simp [next, level]) (by simp [next, level]) (h.back (d + 1))
  refine ⟨⟨fun d => (hparen d (P := fun _ _ => True)).1, fun d => (hparen d).2.2 ?_⟩,
    fun d => (hparen d).2.2 ?_⟩
  · have hopen : d ≤ ((level d).next '(').depth := by
      change d ≤ d + 1
      omega
    refine ⟨hopen, (h.above (d + 1)).mono fun s c hs => by omega, ?_⟩
    simp [next, level]
  · refine ⟨by simp, (h.above (d + 1)).mono fun s c hs hc => ?_, by simp⟩
    -- a dot at the outer depth would leave it there, below the inner one
    rintro rfl
    have hsame : (level d).next c = level d := by rw [hc]; rfl
    rw [hsame] at hs
    change d + 1 ≤ d at hs
    omega

lemma cut_dot (rest : List Char) : (level 0).cut ('.' :: rest) = [] :: (level 0).cut rest := by
  rw [cut, if_pos ⟨rfl, rfl⟩]
  rfl

/-- A text whose dots are all deeper is cut off whole at the dot after it. -/
lemma cut_append_dot (rest : List Char)
    (h : Along (fun s c => c = '.' → s ≠ level 0) s a) (ha : s.scan a = level 0) :
    s.cut (a ++ '.' :: rest) = a :: (level 0).cut rest := by
  induction a generalizing s with
  | nil =>
    obtain rfl : s = level 0 := ha
    exact cut_dot rest
  | cons c a ih =>
    rw [List.cons_append, cut, if_neg fun hc => h.1 hc.1 hc.2, ih h.2 ha]
    rfl

lemma cut_of_dots (h : Along (fun s c => c = '.' → s ≠ level 0) s a) : s.cut a = [a] := by
  induction a generalizing s with
  | nil => rfl
  | cons c a ih =>
    rw [cut, if_neg fun hc => h.1 hc.1 hc.2, ih h.2]
    rfl

/-- Solid texts with dots before them are the pieces of what they make. -/
lemma cut_flatMap {pieces : List (List Char)} (ha : Solid a) (h : ∀ b ∈ pieces, Solid b) :
    (level 0).cut (a ++ pieces.flatMap ('.' :: ·)) = a :: pieces := by
  induction pieces generalizing a with
  | nil =>
    rw [List.flatMap_nil, List.append_nil]
    exact cut_of_dots (ha.dots 0)
  | cons b pieces ih =>
    obtain ⟨hb, hrest⟩ := List.forall_mem_cons.1 h
    rw [List.flatMap_cons, List.cons_append, cut_append_dot _ (ha.dots 0) (ha.back 0), ih hb hrest]

lemma depth_of_along {d : Int} (h : Along (fun s c => d ≤ (s.next c).depth) s a)
    (hs : d ≤ s.depth) : ∀ u, u <+: a → d ≤ (s.scan u).depth := by
  induction a generalizing s with
  | nil =>
    intro u hu
    rw [List.prefix_nil.1 hu]
    exact hs
  | cons c a ih =>
    intro u hu
    rcases List.prefix_cons_iff.1 hu with rfl | ⟨v, rfl, hv⟩
    · exact hs
    · exact ih h.2 h.1 v hv

lemma closed_flatMap {pieces : List (List Char)} (h : ∀ b ∈ pieces, Solid b) :
    Closed (pieces.flatMap ('.' :: ·)) := by
  induction pieces with
  | nil => exact closed_of_plain (by simp)
  | cons b pieces ih =>
    obtain ⟨hb, hrest⟩ := List.forall_mem_cons.1 h
    have hdot : Closed ['.'] := closed_of_plain (by simp)
    rw [List.flatMap_cons]
    exact (hdot.append hb.toClosed).append (ih hrest)

/-- How a scanner comes through a text that is made of pieces. -/
structure Scans (text : List Char) (pieces : List (List Char)) : Prop where
  back : (level 0).scan text = level 0
  above : ∀ u, u <+: text → 0 ≤ ((level 0).scan u).depth
  pieces : segments text = pieces

lemma scans_nil : Scans [] [] where
  back := rfl
  above u hu := by rw [List.prefix_nil.1 hu]; exact Int.le_refl 0
  pieces := rfl

lemma scans_flatMap {pieces : List (List Char)} (ha : Solid a) (hne : a ≠ [])
    (h : ∀ b ∈ pieces, Solid b) : Scans (a ++ pieces.flatMap ('.' :: ·)) (a :: pieces) := by
  have hclosed := ha.toClosed.append (closed_flatMap h)
  refine ⟨hclosed.back 0, depth_of_along (hclosed.above 0) (Int.le_refl 0), ?_⟩
  rw [segments, if_neg (by simp [hne]), cut_flatMap ha h]

end Scanner

open Scanner

/-- A character that neither the scanner nor a cut sees. -/
def isNameChar (c : Char) : Bool := c ≠ '.' ∧ c ≠ '(' ∧ c ≠ ')' ∧ c ≠ '\''

/-- A character that does not end a quoted text. -/
def isTextChar (c : Char) : Bool := c ≠ '\''

lemma Scalar.closed_script {s : Scalar} (h : s.isSpelt isTextChar = true) : Closed s.script := by
  cases s with
  | int n =>
    refine closed_of_plain fun c hc => ?_
    obtain ⟨h1, h2, h3, -⟩ := ne_of_isNumeral (isNumeral_of_int hc)
    exact ⟨h1, h2, h3⟩
  | float x =>
    refine closed_of_plain fun c hc => ?_
    obtain ⟨h1, h2, h3, -⟩ := ne_of_isNumeral (isNumeral_of_float hc)
    exact ⟨h1, h2, h3⟩
  | string text =>
    refine (solid_of_quoted fun c hc => ?_).toClosed
    simpa [isTextChar] using List.all_eq_true.1 h c hc
  | bool b =>
    refine (solid_of_quoted ?_).toClosed
    cases b <;> simp

mutual

theorem Argument.closed_script : ∀ a : Argument, a.isSpelt isNameChar isTextChar = true →
    Closed a.script
  | .scalar s, h => by
    rw [Argument.script]
    exact Scalar.closed_script h
  | .vertex id, h => by
    rw [Argument.script]
    have hname : Solid ['V'] := solid_of_plain (by simp)
    exact (hname.append (solid_of_parentheses (Scalar.closed_script h))).toClosed
  | .traversal steps, h => Step.closed_chain steps h
  | .step s, h => (Step.solid_script s h).toClosed

theorem Step.solid_script : ∀ s : Step, s.isSpelt isNameChar isTextChar = true → Solid s.script
  | ⟨operation, arguments⟩, h => by
    obtain ⟨hname, hargs⟩ := Bool.and_eq_true_iff.1 h
    rw [Step.script, List.append_assoc]
    refine (solid_of_plain fun c hc => ?_).append
      (solid_of_parentheses (Step.closed_argumentList arguments hargs))
    have := List.all_eq_true.1 hname c hc
    simp [isNameChar] at this
    tauto

theorem Step.closed_argumentList : ∀ as : List Argument,
    Argument.areSpelt isNameChar isTextChar as = true → Closed (Step.argumentList as)
  | [], _ => closed_of_plain (by simp [Step.argumentList])
  | [a], h => Argument.closed_script a (Bool.and_eq_true_iff.1 h).1
  | a :: b :: rest, h => by
    obtain ⟨ha, hrest⟩ := Bool.and_eq_true_iff.1 h
    have hcomma : Closed [',', ' '] := closed_of_plain (by simp)
    exact (Argument.closed_script a ha).append
      (hcomma.append (Step.closed_argumentList (b :: rest) hrest))

theorem Step.closed_chain : ∀ steps : List Step,
    Step.areSpelt isNameChar isTextChar steps = true → Closed (Step.chain steps)
  | [], _ => closed_of_plain (by simp [Step.chain])
  | [s], h => (Step.solid_script s (Bool.and_eq_true_iff.1 h).1).toClosed
  | s :: t :: rest, h => by
    obtain ⟨hs, hrest⟩ := Bool.and_eq_true_iff.1 h
    have hdot : Closed ['.'] := closed_of_plain (by simp)
    exact (Step.solid_script s hs).toClosed.append
      (hdot.append (Step.closed_chain (t :: rest) hrest))

end

lemma Step.solid_of_mem {steps : List Step} (h : Step.areSpelt isNameChar isTextChar steps = true) :
    ∀ s ∈ steps, Solid s.script := by
  induction steps with
  | nil => simp
  | cons s steps ih =>
    obtain ⟨hs, hrest⟩ := Bool.and_eq_true_iff.1 h
    exact List.forall_mem_cons.2 ⟨Step.solid_script s hs, ih hrest⟩

lemma Step.chain_cons (s : Step) (steps : List Step) :
    Step.chain (s :: steps) = s.script ++ (steps.map Step.script).flatMap ('.' :: ·) := by
  induction steps generalizing s with
  | nil => simp [Step.chain]
  | cons t steps ih =>
    change s.script ++ '.' :: Step.chain (t :: steps) = _
    rw [ih t, List.map_cons, List.flatMap_cons, List.cons_append]

namespace Traversal

/-- Where names keep clear of dots, parentheses and quotes, and texts of quotes, a scanner comes
through a script without falling below zero and ends at zero outside of quotes; cut at the dots that
it meets there, the script is the source and one piece per step. The script inside another traversal
is the same without the source. -/
theorem script_scans (t : Traversal) (h : t.isSpelt isNameChar isTextChar = true) :
    Scans t.script.toList ([source] :: t.steps.map Step.script) ∧
      Scans t.anonymousScript.toList (t.steps.map Step.script) := by
  have hsteps : ∀ b ∈ t.steps.map Step.script, Solid b := by
    intro b hb
    obtain ⟨s, hs, rfl⟩ := List.mem_map.1 hb
    exact Step.solid_of_mem h s hs
  constructor
  · have hsource : Solid [source] := solid_of_plain (by simp [source])
    have hscript : t.script.toList =
        [source] ++ (t.steps.map Step.script).flatMap ('.' :: ·) := by
      simp [script, List.flatMap_map]
    rw [hscript]
    exact scans_flatMap hsource (by simp) hsteps
  · rw [anonymousScript, String.toList_ofList]
    cases hs : t.steps with
    | nil => exact scans_nil
    | cons s rest =>
      rw [hs, List.map_cons, List.forall_mem_cons] at hsteps
      rw [Step.chain_cons]
      exact scans_flatMap hsteps.1 (by cases s; simp [Step.script]) hsteps.2

/-- Dots and parentheses in a text, in the name of a constant and in a traversal inside. -/
def nestedTraversal : Traversal :=
  ⟨[⟨"V", []⟩, ⟨"has", [.scalar (.string "a.b("), .step ⟨"gt", [.scalar (.float Double.nan)]⟩]⟩,
    ⟨"repeat", [.traversal [⟨"out", [.vertex (.int (-1))]⟩, ⟨"in", []⟩]]⟩]⟩

theorem nestedTraversal_scans :
    nestedTraversal.isSpelt isNameChar isTextChar = true ∧
      Scans nestedTraversal.script.toList
        (["g", "V()", "has('a.b(', gt(Double.NaN))", "repeat(out(V(-1)).in())"].map
          String.toList) := by
  have hspelt : nestedTraversal.isSpelt isNameChar isTextChar = true := by decide +kernel
  have hsteps : nestedTraversal.steps.map Step.script =
      ["V()", "has('a.b(', gt(Double.NaN))", "repeat(out(V(-1)).in())"].map String.toList := by
    decide +kernel
  refine ⟨hspelt, ?_⟩
  have hscans := (script_scans nestedTraversal hspelt).1
  rwa [hsteps] at hscans

end Traversal

end GraphClient
