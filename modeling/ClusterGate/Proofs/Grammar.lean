import ClusterGate.Proofs.Recognition

/-!
# The grammar of the control command

A command is put together from parts, in this order:

    blanks SET blanks SESSION blanks <namespace> .strict_writer blanks = blanks
      quote literal quote blanks

The blanks after `SET` and `SESSION` may not be missing, either quote may, and keywords, namespace
and literal are spelled in any case. `Command.Parts` are such parts and `Command.Spelled` says that
a text is put together from them. Reading accepts exactly the texts that are spelled so, in one way
only (`Command.detect_iff_spelled`).

The reader goes from left to right and never goes back. It need not: every part begins with a
character that cannot belong to the part before it, since characters that agree ignoring case are
both blank or both not (`Text.isBlank_of_agree`).
-/

namespace ClusterGate

namespace Text

/-! ## Blank characters and case -/

/-- A number is the code point of the character made of it, unless there is no such character. -/
theorem toNat_ofNat_or (n : Nat) : (Char.ofNat n).toNat = n ∨ (Char.ofNat n).toNat = 0 := by
  by_cases hvalid : n.isValidChar
  · rw [Char.ofNat, dif_pos hvalid]
    exact .inl rfl
  · rw [Char.ofNat, dif_neg hvalid]
    exact .inr rfl

/-- No character is folded to a blank one but blank characters. -/
theorem isBlank_fold (c : Char) : isBlank (fold c) = isBlank c := by
  cases hblank : isBlank c with
  | true => rw [fold_of_isBlank hblank, hblank]
  | false =>
    -- No run of foldings ends among the blank characters.
    have hruns : ∀ r ∈ foldRuns, ∀ blanks ∈ blankRanges,
        r.image + (r.last - r.first) < blanks.1 ∨ blanks.2 < r.image := by decide +kernel
    rw [fold]
    split
    · next r hfound =>
      have hmem : r ∈ foldRuns := List.mem_of_find?_eq_some hfound
      have hcovers := List.find?_some hfound
      simp only [FoldRun.covers, Bool.and_eq_true, decide_eq_true_eq] at hcovers
      refine List.any_eq_false.mpr fun blanks hblanks => ?_
      have hpositive : 0 < blanks.1 := by
        revert blanks
        decide
      have haway := hruns r hmem blanks hblanks
      have himage := toNat_ofNat_or (r.image + (c.toNat - r.first))
      simp only [Bool.and_eq_true, decide_eq_true_eq]
      omega
    · exact hblank

/-- The character that the run takes to this one. -/
def FoldRun.source? (r : FoldRun) (p : Char) : Option Char :=
  let n := r.first + (p.toNat - r.image)
  if r.image ≤ p.toNat ∧ r.covers n = true then some (Char.ofNat n) else none

/-- The characters that are folded to this one, provided that it is its own folding. -/
def unfolded (p : Char) : List Char := p :: foldRuns.filterMap (·.source? p)

theorem mem_unfolded {c p : Char} (hp : p.toNat ≠ 0) (h : fold c = p) : c ∈ unfolded p := by
  rw [fold] at h
  split at h
  · next r hfound =>
    have hcovers := List.find?_some hfound
    have hlow : r.first ≤ c.toNat := by
      simp only [FoldRun.covers, Bool.and_eq_true, decide_eq_true_eq] at hcovers
      exact hcovers.1.1
    -- The run takes the character to this one, so it is found again from there.
    have himage : p.toNat = r.image + (c.toNat - r.first) := by
      rcases toNat_ofNat_or (r.image + (c.toNat - r.first)) with hvalue | hzero
      · rw [← h, hvalue]
      · rw [h] at hzero
        exact absurd hzero hp
    have hback : r.first + (p.toNat - r.image) = c.toNat := by omega
    have hsource : r.source? p = some c := by
      rw [FoldRun.source?, hback, Char.ofNat_toNat, if_pos ⟨by omega, hcovers⟩]
    exact List.mem_cons_of_mem _
      (List.mem_filterMap.mpr ⟨r, List.mem_of_find?_eq_some hfound, hsource⟩)
  · rw [h]
    exact List.mem_cons_self

/-- What is true of all that is folded as a letter is true of all that agrees with the letter. For
given letters these are finitely many characters, so it can be decided. -/
theorem of_unfolded {letters : List Char} (P : Char → Char → Prop) [∀ c p, Decidable (P c p)]
    (hletters : letters.all fun p => (fold p).toNat != 0 && (unfolded (fold p)).all (P · p))
    {p : Char} (hp : p ∈ letters) {c : Char} (h : fold c = fold p) : P c p := by
  have hletter := List.all_eq_true.mp hletters p hp
  simp only [Bool.and_eq_true, bne_iff_ne, ne_eq, List.all_eq_true, decide_eq_true_eq] at hletter
  obtain ⟨hnull, hall⟩ := hletter
  exact hall c (mem_unfolded hnull h)

/-- The two texts agree character by character ignoring case. -/
def Agree (word literal : List Char) : Prop := word.map fold = literal.map fold

instance (word literal : List Char) : Decidable (Agree word literal) :=
  inferInstanceAs (Decidable (_ = _))

/-- Where the letters of a literal are all that a mapping makes of what agrees with them, the
literal is all that it makes of a text that agrees with it. -/
theorem flatMap_of_agree {f : Char → List Char} {word literal : List Char}
    (hletter : ∀ p ∈ literal, ∀ c, fold c = fold p → f c = [p]) (h : Agree word literal) :
    word.flatMap f = literal := by
  induction literal generalizing word with
  | nil =>
    rw [List.map_eq_nil_iff.mp h]
    rfl
  | cons p ps ih =>
    obtain ⟨c, cs, rfl, hc, hcs⟩ := List.map_eq_cons_iff.mp h
    obtain ⟨hp, hps⟩ := List.forall_mem_cons.mp hletter
    rw [List.flatMap_cons, hp c hc, ih hps hcs]
    rfl

/-- Blank characters agree ignoring case with blank characters only. -/
theorem isBlank_of_agree {c p : Char} (h : fold c = fold p) : isBlank c = isBlank p := by
  rw [← isBlank_fold c, h, isBlank_fold]

/-- The text begins with a character that is not blank. -/
def BeginsSolid (cs : List Char) : Prop := ∃ c rest, cs = c :: rest ∧ isBlank c = false

theorem Agree.beginsSolid {word literal : List Char} (h : Agree word literal)
    (hliteral : BeginsSolid literal) : BeginsSolid word := by
  obtain ⟨p, ps, rfl, hp⟩ := hliteral
  obtain ⟨c, cs, rfl, hc, -⟩ := List.map_eq_cons_iff.mp h
  exact ⟨c, cs, rfl, (isBlank_of_agree hc).trans hp⟩

/-! ## Reading a part -/

/-- Blank characters are skipped up to the word after them, and no further. -/
theorem skipBlank_append_word {gap word : List Char} (hgap : allBlank gap = true)
    (hword : BeginsSolid word) (rest : List Char) :
    skipBlank (gap ++ (word ++ rest)) = word ++ rest := by
  obtain ⟨c, cs, rfl, hc⟩ := hword
  rw [skipBlank_append (List.all_eq_true.mp hgap)]
  exact skipBlank_cons hc _

theorem exists_skipBlank (cs : List Char) :
    ∃ gap, allBlank gap = true ∧ cs = gap ++ skipBlank cs :=
  ⟨cs.takeWhile isBlank, List.all_takeWhile, List.takeWhile_append_dropWhile.symm⟩

end Text

/-- A text that is not all blank stands for a namespace: the text without the blank characters at
its ends. -/
theorem Namespace.ofText_of_solid {raw : String} (h : Text.allBlank raw.toList = false) :
    ∃ space, ofText raw = .ok space ∧ space.text = Text.trimmed raw ∧
      Text.BeginsSolid space.text.toList := by
  obtain ⟨lead, c, rest, trail, -, htrim, hc, -⟩ := Text.exists_trim h
  refine ⟨⟨Text.trimmed raw⟩, ?_, rfl, c, rest, ?_, hc⟩
  · rw [ofText, Text.nonBlank?, h]
    rfl
  · rw [Text.trimmed, String.toList_ofList, htrim]

/-- A namespace begins with a character that is not blank. -/
theorem Namespace.beginsSolid_of_ofText {raw : String} {space : Namespace}
    (h : ofText raw = .ok space) : Text.BeginsSolid space.text.toList := by
  cases hraw : Text.allBlank raw.toList with
  | true =>
    rw [ofText, Text.nonBlank?, hraw] at h
    cases h
  | false =>
    obtain ⟨space', hspace', -, hsolid⟩ := ofText_of_solid hraw
    cases hspace'.symm.trans h
    exact hsolid

namespace Command

open Text (allBlank skipBlank Agree BeginsSolid)

theorem afterGap?_append_word {gap word : List Char} (hgap : allBlank gap = true) (hne : gap ≠ [])
    (hword : BeginsSolid word) (rest : List Char) :
    afterGap? (gap ++ (word ++ rest)) = some (word ++ rest) := by
  cases gap with
  | nil => exact absurd rfl hne
  | cons c cs =>
    rw [allBlank, List.all_cons, Bool.and_eq_true] at hgap
    rw [List.cons_append, afterGap?, if_pos hgap.1, Text.skipBlank_append_word hgap.2 hword]

theorem exists_of_afterGap? {cs rest : List Char} (h : afterGap? cs = some rest) :
    ∃ gap, allBlank gap = true ∧ gap ≠ [] ∧ cs = gap ++ rest := by
  cases cs with
  | nil => cases h
  | cons c r =>
    rw [afterGap?] at h
    split at h
    · next hc =>
      cases h
      obtain ⟨gap, hgap, hsplit⟩ := Text.exists_skipBlank r
      refine ⟨c :: gap, ?_, List.cons_ne_nil c gap, congrArg (c :: ·) hsplit⟩
      rw [allBlank, List.all_cons, hc]
      exact hgap
    · cases h

theorem eq_of_afterEquals? {cs rest : List Char} (h : afterEquals? cs = some rest) :
    cs = '=' :: rest := by
  unfold afterEquals? at h
  split at h
  · cases h
    rfl
  · cases h

/-! ### Quotes -/

/-- What may stand in the place of a quote. -/
def quotes : List (List Char) := [[], ['\''], ['"']]

theorem exists_skipQuote (cs : List Char) : ∃ quote ∈ quotes, cs = quote ++ skipQuote cs := by
  unfold skipQuote
  split
  · exact ⟨['\''], by decide, rfl⟩
  · exact ⟨['"'], by decide, rfl⟩
  · exact ⟨[], by decide, rfl⟩

def isPlain (c : Char) : Bool := c != '\'' && c != '"'

theorem skipQuote_cons {c : Char} (h : isPlain c = true) (rest : List Char) :
    skipQuote (c :: rest) = c :: rest := by
  unfold skipQuote
  split
  · next heq =>
    cases heq
    cases h
  · next heq =>
    cases heq
    cases h
  · rfl

/-- Quotes have no case. -/
theorem isPlain_of_isPlain_fold {c : Char} (h : isPlain (Text.fold c) = true) :
    isPlain c = true := by
  rw [isPlain, Bool.and_eq_true, bne_iff_ne, bne_iff_ne]
  constructor
  · rintro rfl
    exact absurd h (by decide +kernel)
  · rintro rfl
    exact absurd h (by decide +kernel)

theorem isPlain_of_isBlank {c : Char} (h : Text.isBlank c = true) : isPlain c = true := by
  rw [isPlain, Bool.and_eq_true, bne_iff_ne, bne_iff_ne]
  constructor
  · rintro rfl
    cases h
  · rintro rfl
    cases h

/-- Blank characters are no quotes, so none of them is skipped for one. -/
theorem skipQuote_of_allBlank {gap : List Char} (hgap : allBlank gap = true) (hne : gap ≠ [])
    (rest : List Char) : skipQuote (gap ++ rest) = gap ++ rest := by
  cases gap with
  | nil => exact absurd rfl hne
  | cons c cs =>
    rw [allBlank, List.all_cons, Bool.and_eq_true] at hgap
    exact skipQuote_cons (isPlain_of_isBlank hgap.1) _

/-! ### Literals -/

def literalText (enabled : Bool) : List Char := (modeValue enabled).toList

/-- A literal begins with a letter that is no quote. -/
theorem exists_of_agree_literal {word : List Char} {enabled : Bool}
    (h : Agree word (literalText enabled)) :
    ∃ c cs, word = c :: cs ∧ Text.fold c = (if enabled then 't' else 'f') ∧
      Text.isBlank c = false ∧ isPlain c = true := by
  have hhead : ∃ p ps, literalText enabled = p :: ps ∧
      Text.fold p = (if enabled then 't' else 'f') ∧ Text.isBlank p = false := by
    cases enabled with
    | true => exact ⟨'t', "rue".toList, by decide +kernel⟩
    | false => exact ⟨'f', "alse".toList, by decide +kernel⟩
  obtain ⟨p, ps, hliteral, hp, hsolid⟩ := hhead
  rw [hliteral] at h
  obtain ⟨c, cs, rfl, hc, -⟩ := List.map_eq_cons_iff.mp h
  refine ⟨c, cs, rfl, hc.trans hp, (Text.isBlank_of_agree hc).trans hsolid, ?_⟩
  refine isPlain_of_isPlain_fold ?_
  rw [hc, hp]
  cases enabled <;> rfl

/-- It ends in a letter, which is neither a quote nor blank. -/
theorem getLast?_of_agree_literal {word : List Char} {enabled : Bool}
    (h : Agree word (literalText enabled)) :
    ∃ c, word.getLast? = some c ∧ Text.isBlank c = false ∧ isPlain c = true := by
  have hlast : word.getLast?.map Text.fold = some (Text.fold 'e') := by
    rw [← List.getLast?_map, h, List.getLast?_map]
    cases enabled <;> decide +kernel
  obtain ⟨c, hc, hfold⟩ := Option.map_eq_some_iff.mp hlast
  refine ⟨c, hc, (Text.isBlank_of_agree hfold).trans (by decide), ?_⟩
  refine isPlain_of_isPlain_fold ?_
  rw [hfold]
  decide +kernel

/-- In whatever case a literal is spelled, it is read, and the rest is left. -/
theorem literal?_append {word : List Char} {enabled : Bool}
    (h : Agree word (literalText enabled)) (rest : List Char) :
    literal? (word ++ rest) = some (enabled, rest) := by
  cases enabled with
  | true =>
    have hread : Text.afterLiteral? "true".toList (word ++ rest) = some rest :=
      Text.afterLiteral?_append h rest
    rw [literal?, hread]
  | false =>
    have hread : Text.afterLiteral? "false".toList (word ++ rest) = some rest :=
      Text.afterLiteral?_append h rest
    -- The first letter already tells the two literals apart.
    obtain ⟨c, cs, rfl, hc, -⟩ := exists_of_agree_literal h
    have hother : Text.agree 't' c = false := by
      rw [Text.agree, hc]
      decide +kernel
    have hno : Text.afterLiteral? "true".toList (c :: cs ++ rest) = none := by
      show Text.afterLiteral? ('t' :: "rue".toList) (c :: (cs ++ rest)) = none
      rw [Text.afterLiteral?, hother]
      rfl
    rw [literal?, hno, hread]
    rfl

theorem exists_of_literal? {cs rest : List Char} {enabled : Bool}
    (h : literal? cs = some (enabled, rest)) :
    ∃ word, cs = word ++ rest ∧ Agree word (literalText enabled) := by
  rw [literal?] at h
  split at h
  · next hread =>
    cases h
    exact Text.afterLiteral?_eq_some hread
  · obtain ⟨rest', hread, heq⟩ := Option.map_eq_some_iff.mp h
    cases heq
    exact Text.afterLiteral?_eq_some hread

/-! ## Parts -/

/-- The parts that a command is put together from. -/
structure Parts where
  lead : List Char
  set : List Char
  setGap : List Char
  session : List Char
  sessionGap : List Char
  space : List Char
  key : List Char
  beforeEquals : List Char
  afterEquals : List Char
  opening : List Char
  literal : List Char
  closing : List Char
  trail : List Char

namespace Parts

/-- The parts in front of the literal. -/
def front (p : Parts) : List Char :=
  [p.lead, p.set, p.setGap, p.session, p.sessionGap, p.space, p.key, p.beforeEquals, ['='],
    p.afterEquals, p.opening].flatten

/-- All parts in their order. -/
def text (p : Parts) : List Char := p.front ++ (p.literal ++ (p.closing ++ p.trail))

/-- The parts are those of a command in the namespace. -/
structure Fit (p : Parts) (space : List Char) (enabled : Bool) : Prop where
  lead : allBlank p.lead = true
  set : Agree p.set "SET".toList
  setGap : allBlank p.setGap = true ∧ p.setGap ≠ []
  session : Agree p.session "SESSION".toList
  sessionGap : allBlank p.sessionGap = true ∧ p.sessionGap ≠ []
  space : Agree p.space space
  key : Agree p.key ".strict_writer".toList
  beforeEquals : allBlank p.beforeEquals = true
  afterEquals : allBlank p.afterEquals = true
  opening : p.opening ∈ quotes
  literal : Agree p.literal (literalText enabled)
  closing : p.closing ∈ quotes
  trail : allBlank p.trail = true

end Parts

/-- The text is put together as a command in the namespace. -/
def Spelled (space : List Char) (enabled : Bool) (sql : List Char) : Prop :=
  ∃ p : Parts, p.text = sql ∧ p.Fit space enabled

/-- The end of a command: no more than blank characters after a quote that may be missing. -/
theorem value?_append {p : Parts} {space : List Char} {enabled : Bool} (h : p.Fit space enabled)
    (rest : List Char) :
    value? (p.afterEquals ++ (p.opening ++ (p.literal ++ rest))) =
      if allBlank (skipQuote rest) then some enabled else none := by
  have hread := literal?_append h.literal rest
  obtain ⟨c, cs, hword, -, hsolid, hplain⟩ := exists_of_agree_literal h.literal
  have hopening : skipQuote (skipBlank (p.afterEquals ++ (p.opening ++ (p.literal ++ rest)))) =
      p.literal ++ rest := by
    have hquotes := h.opening
    simp only [quotes, List.mem_cons, List.not_mem_nil, or_false] at hquotes
    rcases hquotes with hnone | hquote | hquote
    · rw [hnone, List.nil_append, Text.skipBlank_append_word h.afterEquals ⟨c, cs, hword, hsolid⟩,
        hword]
      exact skipQuote_cons hplain _
    · rw [hquote, Text.skipBlank_append_word h.afterEquals ⟨'\'', [], rfl, by decide⟩]
      rfl
    · rw [hquote, Text.skipBlank_append_word h.afterEquals ⟨'"', [], rfl, by decide⟩]
      rfl
  rw [value?, hopening, hread]
  rfl

/-- Parts that fit are read up to the literal, whatever comes then. -/
theorem recognise_front {space : Namespace} (hspace : BeginsSolid space.text.toList) {p : Parts}
    {enabled : Bool} (h : p.Fit space.text.toList enabled) (rest : List Char) :
    recognise space (p.front ++ (p.literal ++ rest)) =
      if allBlank (skipQuote rest) then some enabled else none := by
  have hset : BeginsSolid p.set := h.set.beginsSolid ⟨'S', "ET".toList, rfl, by decide⟩
  have hsession : BeginsSolid p.session :=
    h.session.beginsSolid ⟨'S', "ESSION".toList, rfl, by decide⟩
  have hname : BeginsSolid p.space := h.space.beginsSolid hspace
  have hequals : BeginsSolid ['='] := ⟨'=', [], rfl, by decide⟩
  simp only [Parts.front, List.flatten_cons, List.flatten_nil, List.append_nil, List.append_assoc,
    recognise, bind]
  rw [Text.skipBlank_append_word h.lead hset, Text.afterLiteral?_append h.set, Option.bind_some,
    afterGap?_append_word h.setGap.1 h.setGap.2 hsession, Option.bind_some,
    Text.afterLiteral?_append h.session, Option.bind_some,
    afterGap?_append_word h.sessionGap.1 h.sessionGap.2 hname, Option.bind_some,
    Text.afterLiteral?_append h.space, Option.bind_some, Text.afterLiteral?_append h.key,
    Option.bind_some, Text.skipBlank_append_word h.beforeEquals hequals]
  exact value?_append h rest

/-- A text that is read as a command is put together as one. -/
theorem spelled_of_recognise {space : Namespace} {enabled : Bool} {sql : List Char}
    (h : recognise space sql = some enabled) : Spelled space.text.toList enabled sql := by
  simp only [recognise, value?, bind, Option.bind_eq_some_iff, Prod.exists] at h
  obtain ⟨afterSet, hset, afterSetGap, hsetGap, afterSession, hsession, afterSessionGap,
    hsessionGap, afterSpace, hspace, afterKey, hkey, afterEquals, hequals, read, rest, hliteral,
    hend⟩ := h
  obtain ⟨lead, hlead, hsql⟩ := Text.exists_skipBlank sql
  obtain ⟨set, hset, hagreeSet⟩ := Text.afterLiteral?_eq_some hset
  obtain ⟨setGap, hsetBlank, hsetOpen, rfl⟩ := exists_of_afterGap? hsetGap
  obtain ⟨session, rfl, hagreeSession⟩ := Text.afterLiteral?_eq_some hsession
  obtain ⟨sessionGap, hsessionBlank, hsessionOpen, rfl⟩ := exists_of_afterGap? hsessionGap
  obtain ⟨name, rfl, hagreeName⟩ := Text.afterLiteral?_eq_some hspace
  obtain ⟨key, rfl, hagreeKey⟩ := Text.afterLiteral?_eq_some hkey
  obtain ⟨beforeEquals, hbefore, hafterKey⟩ := Text.exists_skipBlank afterKey
  rw [eq_of_afterEquals? hequals] at hafterKey
  obtain ⟨gap, hgap, hafterEquals⟩ := Text.exists_skipBlank afterEquals
  obtain ⟨opening, hopening, hafterGap⟩ := exists_skipQuote (skipBlank afterEquals)
  obtain ⟨literal, hread, hagreeLiteral⟩ := exists_of_literal? hliteral
  obtain ⟨closing, hclosing, hrest⟩ := exists_skipQuote rest
  split at hend
  · next htrail =>
    cases hend
    refine ⟨⟨lead, set, setGap, session, sessionGap, name, key, beforeEquals, gap, opening, literal,
      closing, skipQuote rest⟩, ?_, hlead, hagreeSet, ⟨hsetBlank, hsetOpen⟩, hagreeSession,
      ⟨hsessionBlank, hsessionOpen⟩, hagreeName, hagreeKey, hbefore, hgap, hopening, hagreeLiteral,
      hclosing, htrail⟩
    rw [hsql, hset, hafterKey, hafterEquals, hafterGap, hread]
    simp [Parts.text, Parts.front, ← hrest]
  · cases hend

/-- What may come after a literal and what follows it: nothing but blank characters, or also a quote
where none of the two is there. -/
theorem allBlank_skipQuote_append {closing trail : List Char} (hclosing : closing ∈ quotes)
    (htrail : allBlank trail = true) (rest : List Char) :
    allBlank (skipQuote (closing ++ (trail ++ rest))) =
      if closing = [] ∧ trail = [] then allBlank (skipQuote rest) else allBlank rest := by
  simp only [quotes, List.mem_cons, List.not_mem_nil, or_false] at hclosing
  rcases hclosing with rfl | rfl | rfl
  · by_cases hnil : trail = []
    · rw [hnil]
      rfl
    · rw [if_neg fun h => hnil h.2, List.nil_append, skipQuote_of_allBlank htrail hnil,
        Text.allBlank_append, htrail]
      rfl
  · rw [if_neg fun h => List.cons_ne_nil _ _ h.1]
    show allBlank (trail ++ rest) = allBlank rest
    rw [Text.allBlank_append, htrail]
    rfl
  · rw [if_neg fun h => List.cons_ne_nil _ _ h.1]
    show allBlank (trail ++ rest) = allBlank rest
    rw [Text.allBlank_append, htrail]
    rfl

/-- Parts that fit are read as the command that they spell, if nothing but blank characters or a
missing quote comes after them. -/
theorem recognise_text_append {space : Namespace} (hspace : BeginsSolid space.text.toList)
    {p : Parts} {enabled : Bool} (h : p.Fit space.text.toList enabled) (rest : List Char) :
    recognise space (p.text ++ rest) =
      if (if p.closing = [] ∧ p.trail = [] then allBlank (skipQuote rest) else allBlank rest) = true
      then some enabled else none := by
  rw [← allBlank_skipQuote_append h.closing h.trail, ← recognise_front hspace h, Parts.text,
    List.append_assoc, List.append_assoc, List.append_assoc]

/-- What is put together from parts of a command is read as this command. -/
theorem recognise_of_spelled {space : Namespace} (hspace : BeginsSolid space.text.toList)
    {enabled : Bool} {sql : List Char} (h : Spelled space.text.toList enabled sql) :
    recognise space sql = some enabled := by
  obtain ⟨p, rfl, hfit⟩ := h
  have hread := recognise_text_append hspace hfit []
  rw [List.append_nil] at hread
  rw [hread]
  exact if_pos (by split <;> rfl)

/-! ## Texts that are commands -/

/-- The text ends in a blank character or a quote. -/
def isClosed (sql : List Char) : Bool :=
  sql.getLast?.any fun c => Text.isBlank c || !isPlain c

theorem isClosed_append (l : List Char) {r : List Char} (hr : r ≠ []) :
    isClosed (l ++ r) = isClosed r := by
  rw [isClosed, List.getLast?_append_of_ne_nil l hr, isClosed]

/-- A command is open at its end if neither a quote nor a blank character follows its literal. -/
theorem isClosed_text {p : Parts} {space : List Char} {enabled : Bool} (h : p.Fit space enabled) :
    isClosed p.text = true ↔ ¬(p.closing = [] ∧ p.trail = []) := by
  have hquotes := h.closing
  simp only [quotes, List.mem_cons, List.not_mem_nil, or_false] at hquotes
  by_cases htrail : p.trail = []
  · rw [Parts.text, htrail, List.append_nil]
    rcases hquotes with hnone | hquote | hquote
    · obtain ⟨c, hlast, hsolid, hplain⟩ := getLast?_of_agree_literal h.literal
      have hne : p.literal ≠ [] := by
        rintro hnil
        rw [hnil] at hlast
        cases hlast
      rw [hnone, List.append_nil, isClosed_append _ hne, isClosed, hlast]
      simp [hsolid, hplain]
    · rw [hquote, ← List.append_assoc, isClosed_append _ (List.cons_ne_nil _ _)]
      simp [isClosed, isPlain]
    · rw [hquote, ← List.append_assoc, isClosed_append _ (List.cons_ne_nil _ _)]
      simp [isClosed, isPlain]
  · have hlast := List.getLast?_eq_some_getLast htrail
    have hblank := List.all_eq_true.mp h.trail _ (List.getLast_mem htrail)
    rw [Parts.text, ← List.append_assoc, ← List.append_assoc, isClosed_append _ htrail, isClosed,
      hlast]
    simp [hblank, htrail]

/-- A namespace is read from every text that is not all blank. In it a text is a command exactly if
it is spelled as one, and no text is spelled as two. The command that the namespace itself is
written into is one of them. A command that ends in a quote or a blank character can be followed by
nothing but blank characters; after one that ends with its literal the closing quote may come
first. -/
theorem detect_iff_spelled {raw : String} (hraw : allBlank raw.toList = false) :
    ∃ space, Namespace.ofText raw = .ok space ∧ space.text = Text.trimmed raw ∧
      (∀ sql enabled, detect space sql = some enabled ↔
        Spelled space.text.toList enabled sql.toList) ∧
      (∀ sql enabled enabled', Spelled space.text.toList enabled sql →
        Spelled space.text.toList enabled' sql → enabled = enabled') ∧
      (∀ enabled, detect space (statement space.text (modeValue enabled)) = some enabled) ∧
      ∀ sql rest enabled, detect space sql = some enabled →
        detect space (sql ++ rest) =
          if (if isClosed sql.toList then allBlank rest.toList
            else allBlank (skipQuote rest.toList)) = true
          then some enabled else none := by
  obtain ⟨space, hspace, htext, hsolid⟩ := Namespace.ofText_of_solid hraw
  have hspelled (sql : List Char) (enabled : Bool) :
      recognise space sql = some enabled ↔ Spelled space.text.toList enabled sql :=
    ⟨spelled_of_recognise, recognise_of_spelled hsolid⟩
  refine ⟨space, hspace, htext, fun sql enabled => hspelled sql.toList enabled, ?_, ?_, ?_⟩
  · intro sql enabled enabled' h h'
    exact Option.some.inj
      (((hspelled sql enabled).mpr h).symm.trans ((hspelled sql enabled').mpr h'))
  · intro enabled
    obtain ⟨c, name, hname, hc⟩ := hsolid
    have hnone : ∀ d ∈ ([] : List Char), Text.isBlank d = true := fun d hd => nomatch hd
    have hread := recognise_statement space hname hc hnone hnone enabled
    rw [if_pos rfl, List.nil_append, List.append_nil] at hread
    rw [detect, toList_statement, hname]
    exact hread
  · intro sql rest enabled h
    obtain ⟨p, hp, hfit⟩ := (hspelled sql.toList enabled).mp h
    have hclosed := isClosed_text hfit
    rw [detect, String.toList_append, ← hp, recognise_text_append hsolid hfit]
    by_cases hopen : p.closing = [] ∧ p.trail = []
    · rw [if_pos hopen, if_neg (fun hc => hclosed.mp hc hopen)]
    · rw [if_neg hopen, if_pos (hclosed.mpr hopen)]

/-- Parts with a Kelvin sign for a letter k, long letters s, wide blanks, and quotes that differ. -/
def foldedParts : Parts :=
  { lead := "\u00A0".toList, set := "\u017Fet".toList, setGap := "\t".toList
    session := "Se\u017FSion".toList, sessionGap := " \u3000".toList, space := "k.APP*".toList
    key := ".\u017FTRICT_writer".toList, beforeEquals := [], afterEquals := "\u2003".toList
    opening := ['"'], literal := "FAL\u017Fe".toList, closing := ['\''], trail := "\n".toList }

/-- They are read as a command, but not in a batch of statements. -/
theorem detect_iff_spelled_folded :
    allBlank " \u212A.app*\u3000".toList = false ∧
      ∃ space, Namespace.ofText " \u212A.app*\u3000" = .ok space ∧
        detect space (String.ofList foldedParts.text) = some false ∧
        detect space (String.ofList foldedParts.text ++ "; DELETE FROM t") = none := by
  have hraw : allBlank " \u212A.app*\u3000".toList = false := by decide +kernel
  obtain ⟨space, hspace, htext, hspelled, -, -, hrest⟩ := detect_iff_spelled hraw
  have hfit : foldedParts.Fit space.text.toList false := by
    rw [htext]
    constructor <;> decide +kernel
  have hread : detect space (String.ofList foldedParts.text) = some false :=
    (hspelled _ _).mpr ⟨foldedParts, String.toList_ofList.symm, hfit⟩
  refine ⟨hraw, space, hspace, hread, ?_⟩
  rw [hrest _ _ _ hread, String.toList_ofList]
  decide +kernel

end Command

end ClusterGate
