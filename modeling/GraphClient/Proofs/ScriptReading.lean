import GraphClient.Proofs.ScriptScan

/-!
# What a script says

The printed form of a traversal is a tree of calls and literals. Vertices and steps as arguments
are chains in it, booleans are texts, floats are their digits, and a lone empty chain is no
argument. Two traversals have the same script exactly if they have the same tree.
-/

namespace GraphClient

inductive Literal where
  | int (n : Int64)
  | float (digits : List Char)
  | string (text : String)
  deriving DecidableEq

mutual

/-- An argument in a script: a literal or a chain of calls. -/
inductive Term where
  | literal (l : Literal)
  | chain (calls : List Application)

structure Application where
  operation : String
  arguments : List Term

end

def Literal.text : Literal → List Char
  | int n => (toString n.toInt).toList
  | float digits => digits
  | string text => Scalar.quoted text.toList

mutual

def Term.text : Term → List Char
  | .literal l => l.text
  | .chain calls => Application.chainText calls

def Application.text : Application → List Char
  | ⟨operation, arguments⟩ => operation.toList ++ '(' :: (Term.listText arguments ++ [')'])

def Term.listText : List Term → List Char
  | [] => []
  | [t] => t.text
  | t :: rest => t.text ++ ',' :: ' ' :: Term.listText rest

def Application.chainText : List Application → List Char
  | [] => []
  | [c] => c.text
  | c :: rest => c.text ++ '.' :: Application.chainText rest

end

/-- A lone empty chain is no argument. -/
def Term.dropLone : List Term → List Term
  | [.chain []] => []
  | terms => terms

def Scalar.literal : Scalar → Literal
  | int n => .int n
  | float x => .float (floatScript x)
  | string text => .string text
  | bool b => .string (if b then "true" else "false")

mutual

def Argument.term : Argument → Term
  | .scalar s => .literal s.literal
  | .vertex id => .chain [⟨"V", [.literal id.literal]⟩]
  | .traversal steps => .chain (Step.calls steps)
  | .step s => .chain [s.call]

def Step.call : Step → Application
  | ⟨operation, arguments⟩ => ⟨operation, Term.dropLone (Argument.terms arguments)⟩

def Argument.terms : List Argument → List Term
  | [] => []
  | a :: rest => a.term :: Argument.terms rest

def Step.calls : List Step → List Application
  | [] => []
  | s :: rest => s.call :: Step.calls rest

end

/-- What the script of a traversal says. -/
def Traversal.calls (t : Traversal) : List Application := Step.calls t.steps

lemma Scalar.text_literal (s : Scalar) : s.literal.text = s.script := by
  cases s <;> rfl

lemma Term.listText_dropLone (ts : List Term) : listText (dropLone ts) = listText ts := by
  unfold dropLone
  split
  · simp [listText, text, Application.chainText]
  · rfl

mutual

theorem Argument.text_term : ∀ a : Argument, a.term.text = a.script
  | .scalar s => by rw [Argument.term, Term.text, Argument.script, s.text_literal]
  | .vertex id => by
    simp [Argument.term, Term.text, Application.chainText, Application.text, Term.listText,
      Argument.script, id.text_literal]
  | .traversal steps => by rw [Argument.term, Term.text, Argument.script, Step.text_calls]
  | .step s => by
    rw [Argument.term, Term.text, Argument.script, Application.chainText, Step.text_call]

theorem Step.text_call : ∀ s : Step, s.call.text = s.script
  | ⟨operation, arguments⟩ => by
    rw [Step.call, Application.text, Step.script, Term.listText_dropLone, Argument.text_terms,
      List.append_assoc, List.cons_append]

theorem Argument.text_terms : ∀ as : List Argument,
    Term.listText (Argument.terms as) = Step.argumentList as
  | [] => rfl
  | [a] => Argument.text_term a
  | a :: b :: rest => by
    have hrest := Argument.text_terms (b :: rest)
    rw [Argument.terms] at hrest
    simp only [Argument.terms, Term.listText, Step.argumentList, Argument.text_term a, hrest]

theorem Step.text_calls : ∀ steps : List Step,
    Application.chainText (Step.calls steps) = Step.chain steps
  | [] => rfl
  | [s] => Step.text_call s
  | s :: t :: rest => by
    have hrest := Step.text_calls (t :: rest)
    rw [Step.calls] at hrest
    simp only [Step.calls, Application.chainText, Step.chain, Step.text_call s, hrest]

end

/-- A character that ends a name or a number. -/
def isBreak (c : Char) : Bool := c = '(' ∨ c = ')' ∨ c = '\'' ∨ c = ','

/-- What is left of a text is empty or begins with a character of a kind. -/
def Ends (p : Char → Bool) (r : List Char) : Prop := ∀ c ∈ r.head?, p c = true

/-- An argument ends before a comma or a closing parenthesis. -/
def isDelimiter (c : Char) : Bool := c = ')' ∨ c = ','

section Reading

variable {p : Char → Bool} {a b r s : List Char}

lemma Ends.mono {q : Char → Bool} (h : Ends p r) (hpq : ∀ c, p c = true → q c = true) : Ends q r :=
  fun c hc => hpq c (h c hc)

lemma ends_cons {c : Char} (r : List Char) (h : p c = true) : Ends p (c :: r) := by
  intro d hd
  obtain rfl : c = d := by simpa using hd
  exact h

/-- A text without some kind of characters is read up to the first of them. -/
lemma append_inj_of_ends (ha : ∀ c ∈ a, p c = false) (hb : ∀ c ∈ b, p c = false) (hr : Ends p r)
    (hs : Ends p s) (h : a ++ r = b ++ s) : a = b ∧ r = s := by
  induction a generalizing b with
  | nil =>
    cases b with
    | nil => exact ⟨rfl, h⟩
    | cons c b =>
      have := hr c (by rw [show r = c :: (b ++ s) from h]; rfl)
      rw [hb c (List.mem_cons_self ..)] at this
      cases this
  | cons c a ih =>
    cases b with
    | nil =>
      have := hs c (by rw [← show c :: (a ++ r) = s from h]; rfl)
      rw [ha c (List.mem_cons_self ..)] at this
      cases this
    | cons d b =>
      obtain ⟨rfl, h'⟩ := List.cons.inj h
      obtain ⟨rfl, hrs⟩ := ih (fun e he => ha e (List.mem_cons_of_mem _ he))
        (fun e he => hb e (List.mem_cons_of_mem _ he)) h'
      exact ⟨rfl, hrs⟩

end Reading

/-- A literal that can be read: a float has a point and no break, a text no quote. -/
def Literal.IsReadable : Literal → Prop
  | int _ => True
  | float digits => '.' ∈ digits ∧ ∀ c ∈ digits, isBreak c = false
  | string text => ∀ c ∈ text.toList, c ≠ '\''

mutual

def Term.IsReadable : Term → Prop
  | .literal l => l.IsReadable
  | .chain calls => Application.AreReadable calls

def Application.IsReadable : Application → Prop
  | ⟨operation, arguments⟩ => (∀ c ∈ operation.toList, isBreak c = false) ∧
      arguments ≠ [.chain []] ∧ Term.AreReadable arguments

def Term.AreReadable : List Term → Prop
  | [] => True
  | t :: rest => t.IsReadable ∧ Term.AreReadable rest

def Application.AreReadable : List Application → Prop
  | [] => True
  | c :: rest => c.IsReadable ∧ Application.AreReadable rest

end

lemma isBreak_eq_false {c : Char} :
    isBreak c = false ↔ c ≠ '(' ∧ c ≠ ')' ∧ c ≠ '\'' ∧ c ≠ ',' := by
  simp [isBreak]

lemma isBreak_of_isDelimiter (c : Char) (h : isDelimiter c = true) : isBreak c = true := by
  simp [isDelimiter, isBreak] at h ⊢
  tauto

namespace Literal

lemma string_or_plain {l : Literal} (hl : l.IsReadable) :
    (∃ text, l = .string text) ∨ (l.text ≠ [] ∧ ∀ c ∈ l.text, isBreak c = false) := by
  cases l with
  | int n =>
    exact .inr ⟨intText_ne_nil _, fun c hc =>
      isBreak_eq_false.2 (ne_of_isNumeral (isNumeral_of_int hc))⟩
  | float digits => exact .inr ⟨List.ne_nil_of_mem hl.1, hl.2⟩
  | string text => exact .inl ⟨text, rfl⟩

/-- Numbers are told apart by their texts: only a float has a point. -/
lemma eq_of_text {l m : Literal} (hl : l.IsReadable) (hm : m.IsReadable)
    (hs : ∀ text, l ≠ .string text) (ht : ∀ text, m ≠ .string text) (h : l.text = m.text) :
    l = m := by
  have hpoint (n : Int64) : '.' ∉ (toString n.toInt).toList := fun hc => by
    rcases mem_intText hc with hd | hd <;> cases hd
  match l, m with
  | .int n, .int k =>
    have : n.toInt.repr = k.toInt.repr := String.toList_inj.1 h
    rw [Int64.toInt_inj.1 (intText_inj this)]
  | .float digits, .float digits' => rw [show digits = digits' from h]
  | .int n, .float digits =>
    have hd : (toString n.toInt).toList = digits := h
    exact absurd (hd ▸ hm.1) (hpoint n)
  | .float digits, .int n =>
    have hd : digits = (toString n.toInt).toList := h
    exact absurd (hd ▸ hl.1) (hpoint n)
  | .string text, _ => exact absurd rfl (hs text)
  | _, .string text => exact absurd rfl (ht text)

lemma plain_ne_string {l : Literal} {text : String} {r s : List Char} (hne : l.text ≠ [])
    (hl : ∀ c ∈ l.text, isBreak c = false) (hr : Ends isBreak r) :
    l.text ++ r ≠ (string text).text ++ s := by
  intro h
  exact hne (append_inj_of_ends (b := []) hl (by simp) hr (ends_cons _ (by decide)) h).1

/-- A literal that another character must end is read in one way only. -/
lemma read {l m : Literal} {r s : List Char} (hl : l.IsReadable) (hm : m.IsReadable)
    (hr : Ends isDelimiter r) (hs : Ends isDelimiter s) (h : l.text ++ r = m.text ++ s) :
    l = m ∧ r = s := by
  have hr' := hr.mono isBreak_of_isDelimiter
  have hs' := hs.mono isBreak_of_isDelimiter
  by_cases hls : ∃ text, l = .string text
  · obtain ⟨text, rfl⟩ := hls
    by_cases hms : ∃ text, m = .string text
    · obtain ⟨text', rfl⟩ := hms
      have h' : text.toList ++ '\'' :: r = text'.toList ++ '\'' :: s := by
        simpa [Literal.text, Scalar.quoted] using h
      obtain ⟨ht, hrs⟩ := append_inj_of_ends (p := (· = '\'')) (by simpa [IsReadable] using hl)
        (by simpa [IsReadable] using hm) (ends_cons r (by simp)) (ends_cons s (by simp)) h'
      rw [String.toList_inj.1 ht]
      exact ⟨rfl, (List.cons.inj hrs).2⟩
    · obtain ⟨hne, hplain⟩ := (string_or_plain hm).resolve_left hms
      exact absurd h.symm (plain_ne_string hne hplain hs')
  · obtain ⟨hne, hplain⟩ := (string_or_plain hl).resolve_left hls
    by_cases hms : ∃ text, m = .string text
    · obtain ⟨text, rfl⟩ := hms
      exact absurd h (plain_ne_string hne hplain hr')
    · obtain ⟨-, hplain'⟩ := (string_or_plain hm).resolve_left hms
      obtain ⟨ht, hrs⟩ := append_inj_of_ends hplain hplain' hr' hs' h
      exact ⟨eq_of_text hl hm (fun t ht => hls ⟨t, ht⟩) (fun t ht => hms ⟨t, ht⟩) ht, hrs⟩

end Literal

/-- What follows a call in a chain, and an argument in a list. -/
def Application.tailText : List Application → List Char
  | [] => []
  | calls => '.' :: Application.chainText calls

def Term.tailText : List Term → List Char
  | [] => []
  | terms => ',' :: ' ' :: Term.listText terms

lemma Application.chainText_cons (c : Application) (cs : List Application) :
    chainText (c :: cs) = c.text ++ tailText cs := by
  cases cs <;> simp [chainText, tailText]

lemma Term.listText_cons (t : Term) (ts : List Term) :
    listText (t :: ts) = t.text ++ tailText ts := by
  cases ts <;> simp [listText, tailText]

lemma Term.ends_tailText (ts : List Term) (r : List Char) :
    Ends isDelimiter (tailText ts ++ ')' :: r) := by
  cases ts with
  | nil => exact ends_cons _ (by decide)
  | cons t ts => exact ends_cons _ (by decide)

/-- Before its first break a literal has a number, or nothing if it is a text. -/
lemma Literal.front {l : Literal} {r : List Char} (hl : l.IsReadable) (hr : Ends isDelimiter r) :
    ∃ w q, l.text ++ r = w ++ q ∧ (∀ c ∈ w, isBreak c = false) ∧ Ends isBreak q ∧
      (q.head? = some '\'' ∨ (w ≠ [] ∧ q = r)) := by
  rcases string_or_plain hl with ⟨text, rfl⟩ | ⟨hne, hplain⟩
  · exact ⟨[], _, rfl, by simp, ends_cons _ (by decide), .inl rfl⟩
  · exact ⟨l.text, r, rfl, hplain, hr.mono isBreak_of_isDelimiter, .inr ⟨hne, rfl⟩⟩

/-- Before its first break a chain has the name of its first call, if it has calls. -/
lemma Application.front {cs : List Application} {r : List Char} (hc : AreReadable cs)
    (hr : Ends isDelimiter r) :
    ∃ w q, chainText cs ++ r = w ++ q ∧ (∀ c ∈ w, isBreak c = false) ∧ Ends isBreak q ∧
      ((cs ≠ [] ∧ q.head? = some '(') ∨ (cs = [] ∧ w = [] ∧ q = r)) := by
  cases cs with
  | nil => exact ⟨[], r, rfl, by simp, hr.mono isBreak_of_isDelimiter, .inr ⟨rfl, rfl, rfl⟩⟩
  | cons c cs =>
    obtain ⟨operation, arguments⟩ := c
    refine ⟨operation.toList, '(' :: (Term.listText arguments ++ [')']) ++ (tailText cs ++ r),
      ?_, hc.1.1, ends_cons _ (by decide), .inl ⟨by simp, rfl⟩⟩
    rw [chainText_cons, text, List.append_assoc, List.append_assoc]

lemma Application.chainText_ne_end {c : Application} {cs : List Application} {r s : List Char}
    (hc : AreReadable (c :: cs)) (hr : Ends isDelimiter r) (hs : Ends isDelimiter s) :
    chainText (c :: cs) ++ s ≠ r := by
  intro h
  obtain ⟨w, q, hw, hwb, hqb, ⟨-, hq⟩ | ⟨hnil, -⟩⟩ := front hc hs
  · rw [hw] at h
    obtain ⟨rfl, rfl⟩ := append_inj_of_ends (b := []) hwb (by simp) hqb
      (hr.mono isBreak_of_isDelimiter) h
    exact absurd (hr '(' hq) (by decide)
  · cases hnil

lemma Literal.ne_chain {l : Literal} {cs : List Application} {r s : List Char} (hl : l.IsReadable)
    (hc : Application.AreReadable cs) (hr : Ends isDelimiter r) (hs : Ends isDelimiter s) :
    l.text ++ r ≠ Application.chainText cs ++ s := by
  intro h
  obtain ⟨w, q, hw, hwb, hqb, hlit⟩ := Literal.front hl hr
  obtain ⟨v, k, hv, hvb, hkb, hchain⟩ := Application.front hc hs
  rw [hw, hv] at h
  obtain ⟨rfl, rfl⟩ := append_inj_of_ends hwb hvb hqb hkb h
  rcases hlit with hq | ⟨hne, rfl⟩
  · rcases hchain with ⟨-, hq'⟩ | ⟨-, -, rfl⟩
    · rw [hq] at hq'
      cases hq'
    · exact absurd (hs '\'' hq) (by decide)
  · rcases hchain with ⟨-, hq'⟩ | ⟨-, hempty, -⟩
    · exact absurd (hr '(' hq') (by decide)
    · exact hne hempty

/-- A list of arguments does not begin like its end. -/
lemma Term.listText_ne_close {t : Term} {ts : List Term} {r s : List Char} (ht : t.IsReadable)
    (hlone : t :: ts ≠ [.chain []]) : listText (t :: ts) ++ ')' :: s ≠ ')' :: r := by
  intro h
  rw [listText_cons, List.append_assoc] at h
  have hends := ends_tailText ts s
  have hclose : Ends isBreak (')' :: r) := ends_cons r (by decide)
  cases t with
  | literal l =>
    obtain ⟨w, q, hw, hwb, hqb, hlit⟩ := Literal.front ht hends
    rw [text, hw] at h
    obtain ⟨rfl, rfl⟩ := append_inj_of_ends (b := []) hwb (by simp) hqb hclose h
    rcases hlit with hq | ⟨hne, -⟩
    · cases hq
    · exact hne rfl
  | chain cs =>
    obtain ⟨w, q, hw, hwb, hqb, hchain⟩ := Application.front ht hends
    rw [text, hw] at h
    obtain ⟨rfl, rfl⟩ := append_inj_of_ends (b := []) hwb (by simp) hqb hclose h
    rcases hchain with ⟨-, hq⟩ | ⟨rfl, -, hq⟩
    · cases hq
    · cases ts with
      | nil => exact hlone rfl
      | cons u us => cases hq

-- On the first tree, with the second tree and what is left of both texts as parameters: a part of a
-- tree ends where the other part ends, and hands on what is left to the part that comes next.
mutual

theorem Term.read : ∀ t : Term, t.IsReadable → ∀ u : Term, u.IsReadable → ∀ r s : List Char,
    Ends isDelimiter r → Ends isDelimiter s → t.text ++ r = u.text ++ s → t = u ∧ r = s
  | .literal l, ht, .literal m, hu, r, s, hr, hs, h => by
    obtain ⟨rfl, hrs⟩ := Literal.read ht hu hr hs h
    exact ⟨rfl, hrs⟩
  | .literal l, ht, .chain cs, hu, r, s, hr, hs, h => absurd h (Literal.ne_chain ht hu hr hs)
  | .chain cs, ht, .literal m, hu, r, s, hr, hs, h => absurd h.symm (Literal.ne_chain hu ht hs hr)
  | .chain cs, ht, .chain ds, hu, r, s, hr, hs, h => by
    obtain ⟨rfl, hrs⟩ := Application.read_chain cs ht ds hu r s hr hs h
    exact ⟨rfl, hrs⟩
termination_by structural t => t

/-- A call ends itself with its closing parenthesis. -/
theorem Application.read : ∀ c : Application, c.IsReadable → ∀ d : Application, d.IsReadable →
    ∀ r s : List Char, c.text ++ r = d.text ++ s → c = d ∧ r = s
  | ⟨operation, arguments⟩, ⟨hname, hlone, hargs⟩, ⟨operation', arguments'⟩,
      ⟨hname', hlone', hargs'⟩, r, s, h => by
    have hopen (q : List Char) : Ends isBreak ('(' :: q) := ends_cons q (by decide)
    have ih := Term.read_list arguments hargs
    simp only [Application.text, List.append_assoc, List.cons_append, List.nil_append] at h
    obtain ⟨hop, hrest⟩ := append_inj_of_ends hname hname' (hopen _) (hopen _) h
    obtain rfl := String.toList_inj.1 hop
    match arguments, arguments', hlone, hlone', hargs, hargs', (List.cons.inj hrest).2, ih with
    | [], [], _, _, _, _, h, _ => exact ⟨rfl, (List.cons.inj h).2⟩
    | [], u :: us, _, hlone', _, hargs', h, _ =>
      exact absurd h.symm (Term.listText_ne_close hargs'.1 hlone')
    | t :: ts, [], hlone, _, hargs, _, h, _ =>
      exact absurd h (Term.listText_ne_close hargs.1 hlone)
    | t :: ts, u :: us, _, _, _, hargs', h, ih =>
      obtain ⟨hts, hrs⟩ := ih (by simp) (u :: us) hargs' (by simp) r s h
      rw [hts]
      exact ⟨rfl, hrs⟩
termination_by structural c => c

theorem Term.read_list : ∀ ts : List Term, Term.AreReadable ts → ts ≠ [] →
    ∀ us : List Term, Term.AreReadable us → us ≠ [] → ∀ r s : List Char,
    Term.listText ts ++ ')' :: r = Term.listText us ++ ')' :: s → ts = us ∧ r = s
  | [], _, hne, _, _, _, _, _, _ => absurd rfl hne
  | _, _, _, [], _, hne, _, _, _ => absurd rfl hne
  | t :: ts, ⟨ht, hts⟩, _, u :: us, ⟨hu, hus⟩, _, r, s, h => by
    rw [Term.listText_cons, Term.listText_cons, List.append_assoc, List.append_assoc] at h
    obtain ⟨rfl, htail⟩ :=
      Term.read t ht u hu _ _ (Term.ends_tailText ts r) (Term.ends_tailText us s) h
    have ih := Term.read_list ts hts
    match ts, us, hus, htail, ih with
    | [], [], _, h, _ => exact ⟨rfl, (List.cons.inj h).2⟩
    | [], _ :: _, _, h, _ => cases h
    | _ :: _, [], _, h, _ => cases h
    | t' :: ts, u' :: us, hus, h, ih =>
      have h' : Term.listText (t' :: ts) ++ ')' :: r = Term.listText (u' :: us) ++ ')' :: s := by
        simpa [Term.tailText] using h
      obtain ⟨heq, hrs⟩ := ih (by simp) (u' :: us) hus (by simp) r s h'
      rw [heq]
      exact ⟨rfl, hrs⟩
termination_by structural ts => ts

theorem Application.read_chain : ∀ cs : List Application, Application.AreReadable cs →
    ∀ ds : List Application, Application.AreReadable ds → ∀ r s : List Char,
    Ends isDelimiter r → Ends isDelimiter s →
    Application.chainText cs ++ r = Application.chainText ds ++ s → cs = ds ∧ r = s
  | [], _, [], _, r, s, _, _, h => ⟨rfl, h⟩
  | [], _, _ :: _, hd, _, _, hr, hs, h => absurd h.symm (Application.chainText_ne_end hd hr hs)
  | _ :: _, hc, [], _, _, _, hr, hs, h => absurd h (Application.chainText_ne_end hc hs hr)
  | c :: cs, ⟨hc, hcs⟩, d :: ds, ⟨hd, hds⟩, r, s, hr, hs, h => by
    rw [Application.chainText_cons, Application.chainText_cons, List.append_assoc,
      List.append_assoc] at h
    obtain ⟨rfl, htail⟩ := Application.read c hc d hd _ _ h
    have ih := Application.read_chain cs hcs
    -- no dot follows a whole chain, so that either both go on or none does
    match cs, ds, hds, htail, ih with
    | [], [], _, h, _ => exact ⟨rfl, h⟩
    | [], _ :: _, _, h, _ => exact absurd (hr '.' (by rw [show r = _ from h]; rfl)) (by decide)
    | _ :: _, [], _, h, _ => exact absurd (hs '.' (by rw [show s = _ from h.symm]; rfl)) (by decide)
    | c' :: cs, d' :: ds, hds, h, ih =>
      obtain ⟨heq, hrs⟩ := ih (d' :: ds) hds r s hr hs (List.cons.inj h).2
      rw [heq]
      exact ⟨rfl, hrs⟩
termination_by structural cs => cs

end

lemma Scalar.readable_literal {s : Scalar} (h : s.isSpelt isTextChar = true) :
    s.literal.IsReadable := by
  cases s with
  | int => trivial
  | float x =>
    exact ⟨point_mem_floatScript x, fun c hc =>
      isBreak_eq_false.2 (ne_of_isNumeral (isNumeral_of_float hc))⟩
  | string text =>
    intro c hc
    simpa [isTextChar] using List.all_eq_true.1 h c hc
  | bool b => cases b <;> simp [literal, Literal.IsReadable]

lemma Term.dropLone_ne (ts : List Term) : dropLone ts ≠ [.chain []] := by
  unfold dropLone
  split
  · simp
  · assumption

lemma Term.readable_dropLone {ts : List Term} (h : AreReadable ts) :
    AreReadable (dropLone ts) := by
  unfold dropLone
  split
  · trivial
  · exact h

mutual

theorem Argument.readable_term : ∀ a : Argument, a.isSpelt (!isBreak ·) isTextChar = true →
    a.term.IsReadable
  | .scalar s, h => Scalar.readable_literal h
  | .vertex id, h => by
    have hname : ∀ c ∈ "V".toList, isBreak c = false := by simp [isBreak]
    exact ⟨⟨hname, by simp, Scalar.readable_literal h, trivial⟩, trivial⟩
  | .traversal steps, h => Step.readable_calls steps h
  | .step s, h => ⟨Step.readable_call s h, trivial⟩

theorem Step.readable_call : ∀ s : Step, s.isSpelt (!isBreak ·) isTextChar = true →
    s.call.IsReadable
  | ⟨operation, arguments⟩, h => by
    obtain ⟨hname, hargs⟩ := Bool.and_eq_true_iff.1 h
    refine ⟨fun c hc => ?_, Term.dropLone_ne _,
      Term.readable_dropLone (Argument.readable_terms arguments hargs)⟩
    simpa using List.all_eq_true.1 hname c hc

theorem Argument.readable_terms : ∀ as : List Argument,
    Argument.areSpelt (!isBreak ·) isTextChar as = true → Term.AreReadable (Argument.terms as)
  | [], _ => trivial
  | a :: rest, h => by
    obtain ⟨ha, hrest⟩ := Bool.and_eq_true_iff.1 h
    exact ⟨Argument.readable_term a ha, Argument.readable_terms rest hrest⟩

theorem Step.readable_calls : ∀ steps : List Step,
    Step.areSpelt (!isBreak ·) isTextChar steps = true →
      Application.AreReadable (Step.calls steps)
  | [], _ => trivial
  | s :: rest, h => by
    obtain ⟨hs, hrest⟩ := Bool.and_eq_true_iff.1 h
    exact ⟨Step.readable_call s hs, Step.readable_calls rest hrest⟩

end

namespace Traversal

/-- The script of a traversal is the source and what it says. -/
lemma script_eq (t : Traversal) :
    t.script.toList = source :: Application.tailText t.calls := by
  rw [script, String.toList_ofList, calls]
  cases t.steps with
  | nil => rfl
  | cons s steps =>
    have htail : Application.tailText (Step.calls (s :: steps)) = '.' :: Step.chain (s :: steps) :=
      congrArg ('.' :: ·) (Step.text_calls (s :: steps))
    rw [htail, Step.chain_cons, List.flatMap_map]
    rfl

/-- Where names keep clear of parentheses, quotes and commas, as identifiers do, and texts of
quotes, two traversals have the same script exactly if they say the same. -/
theorem script_eq_iff_calls_eq (t u : Traversal) (ht : t.isSpelt (!isBreak ·) isTextChar = true)
    (hu : u.isSpelt (!isBreak ·) isTextChar = true) : t.script = u.script ↔ t.calls = u.calls := by
  have hend : Ends isDelimiter [] := by simp [Ends]
  rw [← String.toList_inj, script_eq, script_eq]
  constructor
  · intro h
    have htail := (List.cons.inj h).2
    have hread := Application.read_chain t.calls (Step.readable_calls t.steps ht) u.calls
      (Step.readable_calls u.steps hu) [] [] hend hend
    match t.calls, u.calls, htail, hread with
    | [], [], _, _ => rfl
    | [], _ :: _, h, _ => cases h
    | _ :: _, [], h, _ => cases h
    | c :: cs, d :: ds, h, hread =>
      exact (hread (congrArg (· ++ []) (List.cons.inj h).2)).1
  · intro h
    rw [h]

/-- A boolean, a vertex and an empty traversal as arguments. -/
def shortSpelling : Traversal :=
  ⟨[⟨"V", [.scalar (.bool true)]⟩, ⟨"to", [.vertex (.int 1)]⟩, ⟨"by", [.traversal []]⟩]⟩

/-- What they print as. -/
def longSpelling : Traversal :=
  ⟨[⟨"V", [.scalar (.string "true")]⟩, ⟨"to", [.traversal [⟨"V", [.scalar (.int 1)]⟩]]⟩,
    ⟨"by", []⟩]⟩

theorem calls_of_shortSpelling :
    shortSpelling.isSpelt (!isBreak ·) isTextChar = true ∧
      longSpelling.isSpelt (!isBreak ·) isTextChar = true ∧
      shortSpelling.script = longSpelling.script ∧ shortSpelling.calls = longSpelling.calls := by
  have hs : shortSpelling.isSpelt (!isBreak ·) isTextChar = true := by decide +kernel
  have hl : longSpelling.isSpelt (!isBreak ·) isTextChar = true := by decide +kernel
  have hscript : shortSpelling.script = longSpelling.script := by decide +kernel
  exact ⟨hs, hl, hscript, (script_eq_iff_calls_eq shortSpelling longSpelling hs hl).1 hscript⟩

end Traversal

end GraphClient
