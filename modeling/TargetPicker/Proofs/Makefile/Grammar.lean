import TargetPicker.Makefile.LineKind
import TargetPicker.Proofs.Text.Trim

/-!
# The grammar of a line

`LineKind.ofText` tries five readers in turn.  Beside it stands the grammar that it accepts:
`LineForm` has one constructor for each form of a line, a form carries the proof that its name is
one, `LineForm.text` writes it out and `LineForm.kind` says what it means.

* **Completeness** (`ofText_text`): a written form is recognised, as what it means.
* **Soundness** (`exists_form_of_ofText`): what is recognised is a written form.
* **Unambiguity** (`text_injective`): a line is written by at most one form.  This is read off
  completeness: equal texts have equal kinds, and the kind holds all of the form but the blanks
  that were trimmed.

What keeps the forms apart is the character after the name.  Names hold letters and, by form, the
hyphen or the underscore; a form goes on with a colon, an equals sign or a space.
-/

namespace TargetPicker

open Text

/-! ## Names -/

/-- The letters `A`–`Z` and `a`–`z`. -/
def IsLetter (c : Char) : Prop := ('A' ≤ c ∧ c ≤ 'Z') ∨ ('a' ≤ c ∧ c ≤ 'z')

/-- The characters of a directive's name. -/
def IsDirectiveLetter (c : Char) : Prop := IsLetter c ∨ c = '_'

/-- The characters of a target. -/
def IsTargetLetter (c : Char) : Prop := IsLetter c ∨ c = '-'

instance : DecidablePred IsLetter := fun _ => inferInstanceAs (Decidable (_ ∨ _))

instance : DecidablePred IsDirectiveLetter := fun _ => inferInstanceAs (Decidable (_ ∨ _))

instance : DecidablePred IsTargetLetter := fun _ => inferInstanceAs (Decidable (_ ∨ _))

/-- A name over a class of characters is not empty and holds no others. -/
def IsName (p : Char → Prop) (name : Text) : Prop := name ≠ [] ∧ ∀ c ∈ name, p c

instance (p : Char → Prop) [DecidablePred p] (name : Text) : Decidable (IsName p name) :=
  @instDecidableAnd _ _ inferInstance (List.decidableBAll p name)

lemma isVariableChar_iff (c : Char) : isVariableChar c = true ↔ IsLetter c := by
  have htest : isVariableChar c
      = (decide ('A' ≤ c ∧ c ≤ 'Z') || (decide ('a' ≤ c) && decide (c ≤ 'z'))) := rfl
  rw [htest, Bool.or_eq_true, Bool.and_eq_true, decide_eq_true_eq, decide_eq_true_eq,
    decide_eq_true_eq, IsLetter]

lemma isTargetChar_iff (c : Char) : isTargetChar c = true ↔ IsTargetLetter c := by
  rw [IsTargetLetter, ← isVariableChar_iff]
  simp [isTargetChar, isVariableChar]

lemma isDirectiveChar_iff (c : Char) : isDirectiveChar c = true ↔ IsDirectiveLetter c := by
  rw [IsDirectiveLetter, ← isVariableChar_iff]
  simp [isDirectiveChar, isVariableChar]

lemma IsName.target {name : Text} (h : IsName IsLetter name) : IsName IsTargetLetter name :=
  ⟨h.1, fun c hc => Or.inl (h.2 c hc)⟩

/-- A line with a name in front starts with a character of that name. -/
lemma IsName.of_head? {p : Char → Prop} {name rest : Text} {c : Char} (hname : IsName p name)
    (h : (name ++ rest).head? = some c) : p c := by
  obtain ⟨d, name, rfl⟩ := List.exists_cons_of_ne_nil hname.1
  obtain rfl := Option.some.inj h
  exact hname.2 _ List.mem_cons_self

/-- Reading a name off a line, for a class given by its test. -/
lemma leading?_iff_isName {q : Char → Bool} {p : Char → Prop} (hq : ∀ c, q c = true ↔ p c)
    {line name rest : Text} :
    leading? q line = some (name, rest) ↔
      line = name ++ rest ∧ IsName p name ∧ ∀ c ∈ rest.head?, ¬ p c := by
  rw [leading?_eq_some_iff, IsName, and_assoc]
  simp only [← hq, Bool.not_eq_true]

/-- **A name ends in one place only.** -/
lemma IsName.append_inj {p : Char → Prop} [DecidablePred p] {name name' rest rest' : Text}
    (hname : IsName p name) (hname' : IsName p name') (hrest : ∀ c ∈ rest.head?, ¬ p c)
    (hrest' : ∀ c ∈ rest'.head?, ¬ p c) (h : name ++ rest = name' ++ rest') :
    name = name' ∧ rest = rest' := by
  have hq : ∀ c, decide (p c) = true ↔ p c := fun c => decide_eq_true_iff
  have hread := (leading?_iff_isName hq).mpr ⟨rfl, hname, hrest⟩
  have hread' := (leading?_iff_isName hq).mpr ⟨h, hname', hrest'⟩
  exact Prod.mk.inj (Option.some.inj (hread.symm.trans hread'))

/-! ## Forms -/

/-- **The grammar of a line**, one constructor for each form. -/
inductive LineForm where
  | comment (rest : Text)
  | directive (name rest : Text) (h : IsName IsDirectiveLetter name)
  | ruleHeader (target prerequisites : Text) (h : IsName IsTargetLetter target)
  | simple (name value : Text) (h : IsName IsLetter name)
  | expanded (name : Text) (spaced : Bool) (value : Text) (h : IsName IsLetter name)

namespace LineForm

/-- The optional space after the name of a recursively expanded variable. -/
def space (spaced : Bool) : Text := if spaced then [' '] else []

lemma head_space {sign : Char} (spaced : Bool) (h : ¬ IsLetter sign) {rest : Text} :
    ∀ c ∈ (space spaced ++ sign :: rest).head?, ¬ IsLetter c := by
  cases spaced with
  | false =>
      intro c hc
      cases hc
      exact h
  | true =>
      intro c hc
      cases hc
      decide

/-- A form written out. -/
def text : LineForm → Text
  | comment rest => '#' :: rest
  | directive name rest _ => '.' :: (name ++ ':' :: rest)
  | ruleHeader target prerequisites _ => target ++ ':' :: prerequisites
  | simple name value _ => name ++ ' ' :: ':' :: '=' :: value
  | expanded name spaced value _ => name ++ (space spaced ++ '=' :: value)

/-- What a form means. -/
def kind : LineForm → LineKind
  | comment _ => .comment
  | directive name rest _ => .directive name (trim rest)
  | ruleHeader target prerequisites _ => .ruleHeader target prerequisites
  | simple name value _ => .simple name (trim value)
  | expanded name _ value _ => .expanded name (trim value)

lemma kind_ne_unrecognized (f : LineForm) : f.kind ≠ .unrecognized := by
  cases f <;> exact LineKind.noConfusion

end LineForm

/-! ## The readers, one by one -/

namespace LineKind

lemma after?_append (start line : Text) : after? start (start ++ line) = some line :=
  after?_eq_some_iff.mpr rfl

lemma after?_of_ne {c d : Char} (h : c ≠ d) (line : Text) : after? [c] (d :: line) = none := by
  simp [after?, h]

/-- A character that starts no name starts no line with a name in front. -/
lemma after?_name {p : Char → Prop} {c : Char} {name : Text} (hname : IsName p name)
    (hc : ¬ p c) (rest : Text) : after? [c] (name ++ rest) = none := by
  obtain ⟨hne, hall⟩ := hname
  cases name with
  | nil => exact absurd rfl hne
  | cons d name =>
      refine after?_of_ne ?_ _
      rintro rfl
      exact hc (hall _ List.mem_cons_self)

/-- Reading a name off a line on which it is followed by `c`. -/
lemma leading?_name {q : Char → Bool} {p : Char → Prop} (hq : ∀ c, q c = true ↔ p c)
    {name : Text} (hname : IsName p name) {c : Char} (hc : ¬ p c) (rest : Text) :
    leading? q (name ++ c :: rest) = some (name, c :: rest) := by
  refine (leading?_iff_isName hq).mpr ⟨rfl, hname, ?_⟩
  intro d hd
  cases hd
  exact hc

theorem comment?_eq_some_iff {line : Text} {k : LineKind} :
    comment? line = some k ↔ ∃ rest, line = '#' :: rest ∧ k = .comment := by
  simp only [comment?, Option.map_eq_some_iff, after?_eq_some_iff]
  constructor
  · rintro ⟨rest, rfl, rfl⟩
    exact ⟨rest, rfl, rfl⟩
  · rintro ⟨rest, rfl, rfl⟩
    exact ⟨rest, rfl, rfl⟩

theorem directive?_eq_some_iff {line : Text} {k : LineKind} :
    directive? line = some k ↔ ∃ name rest, IsName IsDirectiveLetter name ∧
      line = '.' :: (name ++ ':' :: rest) ∧ k = .directive name (trim rest) := by
  simp only [directive?, Option.bind_eq_bind, Option.bind_eq_some_iff, Option.pure_def,
    Prod.exists, Option.some.injEq]
  constructor
  · rintro ⟨_, hdot, name, _, hname, rest, hcolon, rfl⟩
    obtain ⟨rfl, hname, -⟩ := (leading?_iff_isName isDirectiveChar_iff).mp hname
    rw [after?_eq_some_iff] at hdot hcolon
    exact ⟨name, rest, hname, by rw [hdot, hcolon]; rfl, rfl⟩
  · rintro ⟨name, rest, hname, rfl, rfl⟩
    exact ⟨_, after?_append ['.'] _, name, _,
      leading?_name isDirectiveChar_iff hname (by decide) rest, rest, after?_append [':'] _, rfl⟩

theorem ruleHeader?_eq_some_iff {line : Text} {k : LineKind} :
    ruleHeader? line = some k ↔ ∃ target rest, IsName IsTargetLetter target ∧
      line = target ++ ':' :: rest ∧ k = .ruleHeader target rest := by
  simp only [ruleHeader?, Option.bind_eq_bind, Option.bind_eq_some_iff, Option.pure_def,
    Prod.exists, Option.some.injEq]
  constructor
  · rintro ⟨target, _, htarget, rest, hcolon, rfl⟩
    obtain ⟨rfl, htarget, -⟩ := (leading?_iff_isName isTargetChar_iff).mp htarget
    rw [after?_eq_some_iff] at hcolon
    exact ⟨target, rest, htarget, by rw [hcolon]; rfl, rfl⟩
  · rintro ⟨target, rest, htarget, rfl, rfl⟩
    exact ⟨target, _, leading?_name isTargetChar_iff htarget (by decide) rest, rest,
      after?_append [':'] _, rfl⟩

/-- The space before an operator is optional, and an operator starts with neither a letter nor a
space. -/
theorem assignment?_eq_some_iff {sign : Char} {operator line name value : Text}
    (hletter : ¬ IsLetter sign) (hspace : ' ' ≠ sign) :
    assignment? (sign :: operator) line = some (name, value) ↔
      ∃ spaced rest, IsName IsLetter name ∧
        line = name ++ (LineForm.space spaced ++ sign :: (operator ++ rest)) ∧
        value = trim rest := by
  simp only [assignment?, Option.bind_eq_bind, Option.bind_eq_some_iff, Option.pure_def,
    Prod.exists, Option.some.injEq, Prod.mk.injEq]
  constructor
  · rintro ⟨_, after, hname, rest, hoperator, rfl, rfl⟩
    obtain ⟨rfl, hname, -⟩ := (leading?_iff_isName isVariableChar_iff).mp hname
    rw [after?_eq_some_iff] at hoperator
    cases hs : after? [' '] after with
    | none =>
        rw [hs, Option.getD_none] at hoperator
        exact ⟨false, rest, hname, by rw [hoperator]; rfl, rfl⟩
    | some after' =>
        rw [hs, Option.getD_some] at hoperator
        rw [after?_eq_some_iff] at hs
        exact ⟨true, rest, hname, by rw [hs, hoperator]; rfl, rfl⟩
  · rintro ⟨spaced, rest, hname, rfl, rfl⟩
    cases spaced with
    | false =>
        refine ⟨name, _, leading?_name isVariableChar_iff hname hletter _, rest, ?_, rfl, rfl⟩
        rw [after?_of_ne hspace, Option.getD_none]
        exact after?_append (sign :: operator) rest
    | true =>
        refine ⟨name, _, leading?_name isVariableChar_iff hname (by decide) _, rest, ?_, rfl, rfl⟩
        change after? (sign :: operator)
          ((after? [' '] ([' '] ++ (sign :: operator ++ rest))).getD _) = _
        rw [after?_append, Option.getD_some]
        exact after?_append (sign :: operator) rest

theorem simple?_eq_some_iff {line : Text} {k : LineKind} :
    simple? line = some k ↔ ∃ name spaced rest, IsName IsLetter name ∧
      line = name ++ (LineForm.space spaced ++ ':' :: '=' :: rest) ∧
      k = .simple name (trim rest) := by
  simp only [simple?, Option.map_eq_some_iff, Prod.exists,
    assignment?_eq_some_iff (show ¬ IsLetter ':' by decide) (show ' ' ≠ ':' by decide)]
  constructor
  · rintro ⟨name, _, ⟨spaced, rest, hname, rfl, rfl⟩, rfl⟩
    exact ⟨name, spaced, rest, hname, rfl, rfl⟩
  · rintro ⟨name, spaced, rest, hname, rfl, rfl⟩
    exact ⟨name, _, ⟨spaced, rest, hname, rfl, rfl⟩, rfl⟩

theorem expanded?_eq_some_iff {line : Text} {k : LineKind} :
    expanded? line = some k ↔ ∃ name spaced rest, IsName IsLetter name ∧
      line = name ++ (LineForm.space spaced ++ '=' :: rest) ∧
      k = .expanded name (trim rest) := by
  simp only [expanded?, Option.map_eq_some_iff, Prod.exists,
    assignment?_eq_some_iff (show ¬ IsLetter '=' by decide) (show ' ' ≠ '=' by decide)]
  constructor
  · rintro ⟨name, _, ⟨spaced, rest, hname, rfl, rfl⟩, rfl⟩
    exact ⟨name, spaced, rest, hname, rfl, rfl⟩
  · rintro ⟨name, spaced, rest, hname, rfl, rfl⟩
    exact ⟨name, _, ⟨spaced, rest, hname, rfl, rfl⟩, rfl⟩

/-! ## The first form that fits -/

lemma ofText_eq (line : Text) :
    ofText line = ((((comment? line).or (directive? line)).or (ruleHeader? line)).or
      ((simple? line).or (expanded? line))).getD .unrecognized := by
  simp only [ofText, forms, List.findSome?_cons, List.findSome?_nil]
  cases comment? line <;> cases directive? line <;> cases ruleHeader? line <;>
    cases simple? line <;> cases expanded? line <;> rfl

/-- A line that starts with a name is neither a comment nor a directive. -/
lemma ofText_name {p : Char → Prop} {name : Text} (hname : IsName p name) (hhash : ¬ p '#')
    (hdot : ¬ p '.') (rest : Text) :
    ofText (name ++ rest) = ((ruleHeader? (name ++ rest)).or
      ((simple? (name ++ rest)).or (expanded? (name ++ rest)))).getD .unrecognized := by
  rw [ofText_eq, comment?, directive?, after?_name hname hhash, after?_name hname hdot]
  rfl

/-- After the name of a variable, a sign other than a colon rules a rule header out. -/
lemma ruleHeader?_name {name : Text} (hname : IsName IsLetter name) {sign : Char}
    (htarget : ¬ IsTargetLetter sign) (hcolon : ':' ≠ sign) (rest : Text) :
    ruleHeader? (name ++ sign :: rest) = none := by
  rw [ruleHeader?, leading?_name isTargetChar_iff hname.target htarget]
  simp [after?_of_ne hcolon]

/-- An assignment is read by one operator only. -/
lemma simple?_name {name : Text} (hname : IsName IsLetter name) (spaced : Bool) (value : Text) :
    simple? (name ++ (LineForm.space spaced ++ '=' :: value)) = none := by
  rw [Option.eq_none_iff_forall_not_mem]
  intro k hk
  obtain ⟨name', spaced', rest, hname', hline, -⟩ := simple?_eq_some_iff.mp hk
  have hcut := (hname.append_inj hname' (LineForm.head_space spaced (by decide))
    (LineForm.head_space spaced' (by decide)) hline).2
  cases spaced <;> cases spaced' <;> simp [LineForm.space] at hcut

/-- **Completeness**: a written form is recognised as what it means. -/
theorem ofText_text (f : LineForm) : ofText f.text = f.kind := by
  cases f with
  | comment rest =>
      rw [LineForm.text, ofText_eq, comment?_eq_some_iff.mpr ⟨rest, rfl, rfl⟩]
      rfl
  | directive name rest h =>
      have hcomment : comment? ('.' :: (name ++ ':' :: rest)) = none := by
        rw [comment?, after?_of_ne (by decide)]
        rfl
      rw [LineForm.text, ofText_eq, hcomment, directive?_eq_some_iff.mpr ⟨name, rest, h, rfl, rfl⟩]
      rfl
  | ruleHeader target prerequisites h =>
      rw [LineForm.text, ofText_name h (by decide) (by decide),
        ruleHeader?_eq_some_iff.mpr ⟨target, prerequisites, h, rfl, rfl⟩]
      rfl
  | simple name value h =>
      have hsimple : simple? (name ++ ' ' :: ':' :: '=' :: value)
          = some (.simple name (trim value)) :=
        simple?_eq_some_iff.mpr ⟨name, true, value, h, rfl, rfl⟩
      rw [LineForm.text, ofText_name h (by decide) (by decide),
        ruleHeader?_name h (by decide) (by decide), hsimple]
      rfl
  | expanded name spaced value h =>
      have hheader : ruleHeader? (name ++ (LineForm.space spaced ++ '=' :: value)) = none := by
        cases spaced with
        | false => exact ruleHeader?_name h (by decide) (by decide) _
        | true => exact ruleHeader?_name h (by decide) (by decide) _
      rw [LineForm.text, ofText_name h (by decide) (by decide), hheader, simple?_name h,
        expanded?_eq_some_iff.mpr ⟨name, spaced, value, h, rfl, rfl⟩]
      rfl

/-- **Soundness**: what is recognised is a written form. -/
theorem exists_form_of_ofText {line : Text} (h : ofText line ≠ .unrecognized) :
    ∃ f : LineForm, f.text = line ∧ f.kind = ofText line := by
  rw [ofText_eq] at h ⊢
  rcases hc : comment? line with _ | k
  · rcases hd : directive? line with _ | k
    · rcases hr : ruleHeader? line with _ | k
      · rcases hs : simple? line with _ | k
        · rcases he : expanded? line with _ | k
          · simp [hc, hd, hr, hs, he] at h
          · obtain ⟨name, spaced, rest, hname, rfl, rfl⟩ := expanded?_eq_some_iff.mp he
            exact ⟨.expanded name spaced rest hname, rfl, rfl⟩
        · obtain ⟨name, spaced, rest, hname, rfl, rfl⟩ := simple?_eq_some_iff.mp hs
          cases spaced with
          | true => exact ⟨.simple name rest hname, rfl, rfl⟩
          | false =>
              -- without the space the line would have been read as a rule header
              have hheader := ruleHeader?_eq_some_iff.mpr
                ⟨name, '=' :: rest, hname.target, rfl, rfl⟩
              cases hr.symm.trans hheader
      · obtain ⟨target, rest, htarget, rfl, rfl⟩ := ruleHeader?_eq_some_iff.mp hr
        exact ⟨.ruleHeader target rest htarget, rfl, rfl⟩
    · obtain ⟨name, rest, hname, rfl, rfl⟩ := directive?_eq_some_iff.mp hd
      exact ⟨.directive name rest hname, rfl, rfl⟩
  · obtain ⟨rest, rfl, rfl⟩ := comment?_eq_some_iff.mp hc
    exact ⟨.comment rest, rfl, rfl⟩

theorem ofText_eq_iff_form {line : Text} {k : LineKind} (hk : k ≠ .unrecognized) :
    ofText line = k ↔ ∃ f : LineForm, f.text = line ∧ f.kind = k := by
  constructor
  · rintro rfl
    exact exists_form_of_ofText hk
  · rintro ⟨f, rfl, rfl⟩
    exact ofText_text f

theorem ofText_eq_unrecognized_iff {line : Text} :
    ofText line = .unrecognized ↔ ¬ ∃ f : LineForm, f.text = line := by
  constructor
  · rintro h ⟨f, rfl⟩
    exact f.kind_ne_unrecognized ((ofText_text f).symm.trans h)
  · intro h
    by_contra hne
    obtain ⟨f, hf, -⟩ := exists_form_of_ofText hne
    exact h ⟨f, hf⟩

end LineKind

namespace LineForm

/-- **Unambiguity**: a line is written by at most one form. -/
theorem text_injective {f g : LineForm} (h : f.text = g.text) : f = g := by
  have hkind : f.kind = g.kind := by
    rw [← LineKind.ofText_text f, h, LineKind.ofText_text g]
  -- forms of different shape have different kinds, so only equal shapes are left
  cases f <;> cases g <;> simp only [kind, reduceCtorEq] at hkind
  case comment.comment =>
      cases h
      rfl
  case directive.directive =>
      obtain ⟨rfl, -⟩ := LineKind.directive.inj hkind
      simpa [text] using h
  case ruleHeader.ruleHeader =>
      obtain ⟨rfl, rfl⟩ := LineKind.ruleHeader.inj hkind
      rfl
  case simple.simple =>
      obtain ⟨rfl, -⟩ := LineKind.simple.inj hkind
      simpa [text] using h
  case expanded.expanded name spaced value _ _ spaced' value' _ =>
      obtain ⟨rfl, -⟩ := LineKind.expanded.inj hkind
      cases spaced <;> cases spaced' <;> simp_all [text, space]

end LineForm

/-! ## The whole grammar

The grammar once more, kind by kind, in the words in which later proofs use it.
-/

namespace LineKind

variable {line : Text}

theorem ofText_eq_comment_iff : ofText line = .comment ↔ ∃ rest, line = '#' :: rest := by
  rw [ofText_eq_iff_form (by simp)]
  constructor
  · rintro ⟨f, rfl, hf⟩
    cases f <;> simp only [LineForm.kind, reduceCtorEq] at hf
    exact ⟨_, rfl⟩
  · rintro ⟨rest, rfl⟩
    exact ⟨.comment rest, rfl, rfl⟩

theorem ofText_eq_directive_iff {name rest : Text} :
    ofText line = .directive name rest ↔
      IsName IsDirectiveLetter name ∧ ∃ r, line = '.' :: (name ++ ':' :: r) ∧ rest = trim r := by
  rw [ofText_eq_iff_form (by simp)]
  constructor
  · rintro ⟨f, rfl, hf⟩
    cases f <;> simp only [LineForm.kind, reduceCtorEq] at hf
    case directive _ r h =>
        obtain ⟨rfl, rfl⟩ := LineKind.directive.inj hf
        exact ⟨h, r, rfl, rfl⟩
  · rintro ⟨h, r, rfl, rfl⟩
    exact ⟨.directive name r h, rfl, rfl⟩

theorem ofText_eq_ruleHeader_iff {target prerequisites : Text} :
    ofText line = .ruleHeader target prerequisites ↔
      IsName IsTargetLetter target ∧ line = target ++ ':' :: prerequisites := by
  rw [ofText_eq_iff_form (by simp)]
  constructor
  · rintro ⟨f, rfl, hf⟩
    cases f <;> simp only [LineForm.kind, reduceCtorEq] at hf
    case ruleHeader _ _ h =>
        obtain ⟨rfl, rfl⟩ := LineKind.ruleHeader.inj hf
        exact ⟨h, rfl⟩
  · rintro ⟨h, rfl⟩
    exact ⟨.ruleHeader target prerequisites h, rfl, rfl⟩

theorem ofText_eq_simple_iff {name value : Text} :
    ofText line = .simple name value ↔
      IsName IsLetter name ∧ ∃ r, line = name ++ ' ' :: ':' :: '=' :: r ∧ value = trim r := by
  rw [ofText_eq_iff_form (by simp)]
  constructor
  · rintro ⟨f, rfl, hf⟩
    cases f <;> simp only [LineForm.kind, reduceCtorEq] at hf
    case simple _ r h =>
        obtain ⟨rfl, rfl⟩ := LineKind.simple.inj hf
        exact ⟨h, r, rfl, rfl⟩
  · rintro ⟨h, r, rfl, rfl⟩
    exact ⟨.simple name r h, rfl, rfl⟩

theorem ofText_eq_expanded_iff {name value : Text} :
    ofText line = .expanded name value ↔
      IsName IsLetter name ∧ ∃ space r, (space = [] ∨ space = [' ']) ∧
        line = name ++ (space ++ '=' :: r) ∧ value = trim r := by
  rw [ofText_eq_iff_form (by simp)]
  constructor
  · rintro ⟨f, rfl, hf⟩
    cases f <;> simp only [LineForm.kind, reduceCtorEq] at hf
    case expanded _ spaced r h =>
        obtain ⟨rfl, rfl⟩ := LineKind.expanded.inj hf
        refine ⟨h, LineForm.space spaced, r, ?_, rfl, rfl⟩
        cases spaced <;> simp [LineForm.space]
  · rintro ⟨h, space, r, rfl | rfl, rfl, rfl⟩
    · exact ⟨.expanded name false r h, rfl, rfl⟩
    · exact ⟨.expanded name true r h, rfl, rfl⟩

/-- **The kind of a line is its form.**  One equivalence for each kind, every line has at most one
form, a line of no form is unrecognised, and the trimmed parts lose blanks at their ends only. -/
theorem ofText_iff_grammar (line : Text) :
    (ofText line = .comment ↔ ∃ rest, line = '#' :: rest) ∧
    (∀ name rest, ofText line = .directive name rest ↔
      IsName IsDirectiveLetter name ∧ ∃ r, line = '.' :: (name ++ ':' :: r) ∧ rest = trim r) ∧
    (∀ target prerequisites, ofText line = .ruleHeader target prerequisites ↔
      IsName IsTargetLetter target ∧ line = target ++ ':' :: prerequisites) ∧
    (∀ name value, ofText line = .simple name value ↔
      IsName IsLetter name ∧ ∃ r, line = name ++ ' ' :: ':' :: '=' :: r ∧ value = trim r) ∧
    (∀ name value, ofText line = .expanded name value ↔
      IsName IsLetter name ∧ ∃ space r, (space = [] ∨ space = [' ']) ∧
        line = name ++ (space ++ '=' :: r) ∧ value = trim r) ∧
    (ofText line = .unrecognized ↔ ¬ ∃ f : LineForm, f.text = line) ∧
    (∀ f g : LineForm, f.text = line → g.text = line → f = g) ∧
    (∀ t : Text, ∃ front back, t = front ++ trim t ++ back ∧
      (∀ c ∈ front ++ back, c.toNat ∈ whiteSpace) ∧
      (∀ c ∈ (trim t).head?, c.toNat ∉ whiteSpace) ∧
      (∀ c ∈ (trim t).getLast?, c.toNat ∉ whiteSpace)) := by
  refine ⟨ofText_eq_comment_iff, fun _ _ => ofText_eq_directive_iff,
    fun _ _ => ofText_eq_ruleHeader_iff, fun _ _ => ofText_eq_simple_iff,
    fun _ _ => ofText_eq_expanded_iff, ofText_eq_unrecognized_iff, ?_, ?_⟩
  · intro f g hf hg
    exact LineForm.text_injective (hf.trans hg.symm)
  · intro t
    obtain ⟨front, back, ht, hblank, htrim⟩ := trim_spec t
    simp only [← isBlank_iff, Bool.not_eq_true]
    exact ⟨front, back, ht, hblank, htrim.head, htrim.last⟩

end LineKind

end TargetPicker
