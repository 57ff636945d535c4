import ClusterGate.Proofs.Grammar

/-!
# Commands of different namespaces

A text is a command in at most one namespace, up to case (`Command.namespaces_apart`). What makes
this less than obvious is that a namespace is any text: it may be the beginning of another one, and
it may itself look like the rest of a command. But behind its namespace a command has the key, then
nothing but blank characters up to an equals sign, and no equals sign after that one. So where the
namespace ends is told from the end of the text (`Command.Assigns.unique`).
-/

namespace ClusterGate

namespace Text

theorem Agree.symm {word literal : List Char} (h : Agree word literal) : Agree literal word :=
  Eq.symm h

theorem Agree.trans {word literal other : List Char} (h : Agree word literal)
    (h' : Agree literal other) : Agree word other :=
  Eq.trans h h'

theorem Agree.length_eq {word literal : List Char} (h : Agree word literal) :
    word.length = literal.length := by
  have hlength := congrArg List.length h
  rwa [List.length_map, List.length_map] at hlength

/-- Texts that agree ignoring case both end in a blank character or both do not. -/
theorem Agree.endsBlank_eq {word literal : List Char} (h : Agree word literal) :
    word.getLast?.any isBlank = literal.getLast?.any isBlank := by
  have hfolded (cs : List Char) : cs.getLast?.any isBlank = (cs.map fold).getLast?.any isBlank := by
    rw [List.getLast?_map, Option.any_map]
    congr 1
    funext c
    exact (isBlank_fold c).symm
  rw [hfolded, h, ← hfolded]

/-- A literal counts up to case only. -/
theorem Agree.afterLiteral?_eq {literal other : List Char} (h : Agree literal other)
    (cs : List Char) : afterLiteral? literal cs = afterLiteral? other cs := by
  induction literal generalizing other cs with
  | nil =>
    cases other with
    | nil => rfl
    | cons p ps => cases h
  | cons p ps ih =>
    cases other with
    | nil => cases h
    | cons q qs =>
      obtain ⟨hhead, htail⟩ := List.cons.inj h
      cases cs with
      | nil => rfl
      | cons c r => rw [afterLiteral?, afterLiteral?, agree, agree, hhead, ih htail]

end Text

namespace Command

open Text (allBlank Agree BeginsSolid)

/-! ## Behind the words -/

/-- What is left of a text after the words in front of the namespace. -/
def afterWords? (sql : List Char) : Option (List Char) := do
  let cs ← Text.afterLiteral? "SET".toList (Text.skipBlank sql)
  let cs ← afterGap? cs
  let cs ← Text.afterLiteral? "SESSION".toList cs
  afterGap? cs

/-- The mode that is assigned behind these words. -/
def assigned? (space : Namespace) (cs : List Char) : Option Bool := do
  let cs ← Text.afterLiteral? space.text.toList cs
  let cs ← Text.afterLiteral? ".strict_writer".toList cs
  let cs ← afterEquals? (Text.skipBlank cs)
  value? cs

/-- The namespace plays no part in the words. -/
theorem recognise_eq (space : Namespace) (sql : List Char) :
    recognise space sql = (afterWords? sql).bind (assigned? space) := by
  simp only [recognise, afterWords?, bind, Option.bind_assoc]
  rfl

/-- The text is a name, the key, and what assigns it a value: an equals sign after blank characters,
and no other one after that. -/
def Assigns (cs name : List Char) : Prop :=
  ∃ key gap value, cs = name ++ key ++ (gap ++ '=' :: value) ∧
    Agree key ".strict_writer".toList ∧ allBlank gap = true ∧ '=' ∉ value

/-- Behind the equals sign of a command there is no other one. -/
theorem equals_not_mem_of_value? {cs : List Char} {enabled : Bool}
    (h : value? cs = some enabled) : '=' ∉ cs := by
  simp only [value?, bind, Option.bind_eq_some_iff, Prod.exists] at h
  obtain ⟨read, rest, hliteral, hend⟩ := h
  have hquotes : ∀ quote ∈ quotes, '=' ∉ quote := by decide
  obtain ⟨gap, hgap, hcs⟩ := Text.exists_skipBlank cs
  obtain ⟨opening, hopening, hafterGap⟩ := exists_skipQuote (Text.skipBlank cs)
  obtain ⟨literal, hread, hagree⟩ := exists_of_literal? hliteral
  obtain ⟨closing, hclosing, hrest⟩ := exists_skipQuote rest
  have htrail : allBlank (skipQuote rest) = true := by
    by_contra hsolid
    rw [if_neg hsolid] at hend
    cases hend
  -- No letter of a literal agrees with an equals sign.
  have hword : '=' ∉ literal := by
    intro hmem
    have hfolded : Text.fold '=' ∈ (literalText read).map Text.fold :=
      hagree ▸ List.mem_map_of_mem hmem
    revert hfolded
    cases read <;> decide +kernel
  have hblank : Text.isBlank '=' = false := by decide
  rw [hcs, hafterGap, hread, hrest]
  simp only [List.mem_append, not_or]
  exact ⟨Text.not_mem_of_allBlank hgap hblank, hquotes opening hopening, hword,
    hquotes closing hclosing, Text.not_mem_of_allBlank htrail hblank⟩

/-- What is read behind the words is an assignment to a name that agrees with the namespace. -/
theorem assigns_of_assigned? {space : Namespace} {cs : List Char} {enabled : Bool}
    (h : assigned? space cs = some enabled) :
    ∃ name, Assigns cs name ∧ Agree name space.text.toList := by
  simp only [assigned?, bind, Option.bind_eq_some_iff] at h
  obtain ⟨afterName, hname, afterKey, hkey, value, hequals, hvalue⟩ := h
  obtain ⟨name, rfl, hagreeName⟩ := Text.afterLiteral?_eq_some hname
  obtain ⟨key, rfl, hagreeKey⟩ := Text.afterLiteral?_eq_some hkey
  obtain ⟨gap, hgap, hafterKey⟩ := Text.exists_skipBlank afterKey
  rw [eq_of_afterEquals? hequals] at hafterKey
  refine ⟨name, ⟨key, gap, value, ?_, hagreeKey, hgap, equals_not_mem_of_value? hvalue⟩, hagreeName⟩
  rw [hafterKey, List.append_assoc]

/-- What is left over between two readings of one text is blank, since it cannot hold the equals
sign. -/
theorem allBlank_of_append_eq {excess gap gap' value value' : List Char}
    (h : gap ++ '=' :: value = excess ++ (gap' ++ '=' :: value')) (hgap : allBlank gap = true)
    (hvalue : '=' ∉ value) : allBlank excess = true := by
  have hblank : '=' ∉ gap := Text.not_mem_of_allBlank hgap (by decide)
  have hnone : '=' ∉ excess ++ gap' := by
    have hcount := congrArg (List.count '=') h
    simp only [List.count_append, List.count_cons_self, List.count_eq_zero_of_not_mem hblank,
      List.count_eq_zero_of_not_mem hvalue] at hcount
    rw [← List.count_eq_zero, List.count_append]
    omega
  have hcut := Text.cut?_append hblank value
  rw [h, ← List.append_assoc, Text.cut?_append hnone] at hcut
  cases hcut
  rw [Text.allBlank_append, Bool.and_eq_true] at hgap
  exact hgap.1

/-- A key ends in a letter, so no blank characters are left over behind it. -/
theorem eq_nil_of_append_key {front front' key excess : List Char}
    (hkey : Agree key ".strict_writer".toList) (hexcess : allBlank excess = true)
    (h : front ++ key = front' ++ excess) : excess = [] := by
  by_contra hne
  have hends : key.getLast?.any Text.isBlank = false := hkey.endsBlank_eq
  have hkeyNe : key ≠ [] := by
    rintro rfl
    cases hkey
  have hlast := congrArg List.getLast? h
  rw [List.getLast?_append_of_ne_nil _ hkeyNe, List.getLast?_append_of_ne_nil _ hne,
    List.getLast?_eq_some_getLast hne] at hlast
  have hblank := List.all_eq_true.mp hexcess _ (List.getLast_mem hne)
  rw [hlast, Option.any_some, hblank] at hends
  cases hends

/-- A text assigns to one name at most. -/
theorem Assigns.unique {cs name name' : List Char} (h : Assigns cs name) (h' : Assigns cs name') :
    name = name' := by
  obtain ⟨key, gap, value, rfl, hkey, hgap, hvalue⟩ := h
  obtain ⟨key', gap', value', heq, hkey', hgap', hvalue'⟩ := h'
  have hnames : name ++ key = name' ++ key' := by
    rcases List.append_eq_append_iff.mp heq with ⟨excess, hfront, htail⟩ | ⟨excess, hfront, htail⟩
    · have hexcess := allBlank_of_append_eq htail hgap hvalue
      rw [hfront, eq_nil_of_append_key hkey' hexcess hfront, List.append_nil]
    · have hexcess := allBlank_of_append_eq htail hgap' hvalue'
      rw [hfront, eq_nil_of_append_key hkey hexcess hfront, List.append_nil]
  exact (List.append_inj' hnames (hkey.trans hkey'.symm).length_eq).1

/-! ## Pairs of namespaces -/

/-- A namespace counts up to case only. -/
theorem recognise_congr {space space' : Namespace}
    (h : Agree space.text.toList space'.text.toList) (sql : List Char) :
    recognise space sql = recognise space' sql := by
  have hassigned : assigned? space = assigned? space' := by
    funext cs
    rw [assigned?, assigned?, h.afterLiteral?_eq]
  rw [recognise_eq, recognise_eq, hassigned]

/-- Where two namespaces share a command, they are the same up to case. -/
theorem agree_of_recognise {space space' : Namespace} {sql : List Char} {enabled enabled' : Bool}
    (h : recognise space sql = some enabled) (h' : recognise space' sql = some enabled') :
    Agree space.text.toList space'.text.toList := by
  rw [recognise_eq, Option.bind_eq_some_iff] at h h'
  obtain ⟨cs, hwords, hassigned⟩ := h
  obtain ⟨cs', hwords', hassigned'⟩ := h'
  cases hwords.symm.trans hwords'
  obtain ⟨name, hname, hspace⟩ := assigns_of_assigned? hassigned
  obtain ⟨name', hname', hspace'⟩ := assigns_of_assigned? hassigned'
  rw [hname.unique hname'] at hspace
  exact hspace.symm.trans hspace'

/-- The command that a namespace is written into is one of its own. -/
theorem detect_own {space : Namespace} (h : BeginsSolid space.text.toList) (enabled : Bool) :
    detect space (statement space.text (modeValue enabled)) = some enabled := by
  obtain ⟨c, name, hname, hc⟩ := h
  have hnone : ∀ d ∈ ([] : List Char), Text.isBlank d = true := List.forall_mem_nil _
  have hread := recognise_statement space hname hc hnone hnone enabled
  rw [if_pos rfl, List.nil_append, List.append_nil] at hread
  rw [detect, toList_statement, hname]
  exact hread

/-- Of two namespaces that are read from texts, neither captures a command of the other: where the
texts without the blank characters at their ends agree ignoring case, every text is the same in both
namespaces, and otherwise no text is a command in both. Each of the two has commands. -/
theorem namespaces_apart {raw raw' : String} (hraw : allBlank raw.toList = false)
    (hraw' : allBlank raw'.toList = false) :
    ∃ space space', Namespace.ofText raw = .ok space ∧ Namespace.ofText raw' = .ok space' ∧
      (if Agree (Text.trim raw.toList) (Text.trim raw'.toList) then
        ∀ sql, detect space sql = detect space' sql
      else ∀ sql, detect space sql = none ∨ detect space' sql = none) ∧
      ∀ enabled, detect space (statement space.text (modeValue enabled)) = some enabled ∧
        detect space' (statement space'.text (modeValue enabled)) = some enabled := by
  obtain ⟨space, hspace, htext, hsolid⟩ := Namespace.ofText_of_solid hraw
  obtain ⟨space', hspace', htext', hsolid'⟩ := Namespace.ofText_of_solid hraw'
  have htrim : Text.trim raw.toList = space.text.toList := by
    rw [htext, Text.trimmed, String.toList_ofList]
  have htrim' : Text.trim raw'.toList = space'.text.toList := by
    rw [htext', Text.trimmed, String.toList_ofList]
  refine ⟨space, space', hspace, hspace', ?_,
    fun enabled => ⟨detect_own hsolid enabled, detect_own hsolid' enabled⟩⟩
  rw [htrim, htrim']
  split
  · next hagree => exact fun sql => recognise_congr hagree sql.toList
  · next hdiffer =>
    intro sql
    cases h : detect space sql with
    | none => exact .inl rfl
    | some enabled =>
      cases h' : detect space' sql with
      | none => exact .inr rfl
      | some enabled' => exact absurd (agree_of_recognise h h') hdiffer

/-- A namespace that begins with all of a command in another one but its last quote: what is a
command in the longer namespace is none in the shorter one. -/
theorem namespaces_apart_nested :
    ∃ space space', Namespace.ofText "app" = .ok space ∧
      Namespace.ofText " App.strict_writer = 'true" = .ok space' ∧
      detect space "SET SESSION app.strict_writer = 'true'" = some true ∧
      detect space' "SET SESSION App.strict_writer = 'true.strict_writer = 'false'" =
        some false ∧
      detect space "SET SESSION App.strict_writer = 'true.strict_writer = 'false'" = none := by
  have hraw : allBlank "app".toList = false := by decide
  have hraw' : allBlank " App.strict_writer = 'true".toList = false := by decide
  obtain ⟨space, space', hspace, hspace', hapart, hown⟩ := namespaces_apart hraw hraw'
  obtain ⟨htext, htext', hdiffer⟩ : Namespace.ofText "app" = .ok ⟨"app"⟩ ∧
      Namespace.ofText " App.strict_writer = 'true" = .ok ⟨"App.strict_writer = 'true"⟩ ∧
      ¬Agree (Text.trim "app".toList) (Text.trim " App.strict_writer = 'true".toList) := by
    decide +kernel
  cases hspace.symm.trans htext
  cases hspace'.symm.trans htext'
  rw [if_neg hdiffer] at hapart
  have hlong := (hown false).2
  have hshort := (hapart _).resolve_right (Option.ne_none_iff_exists'.mpr ⟨_, hlong⟩)
  exact ⟨_, _, htext, htext', (hown true).1, hlong, hshort⟩

end Command

end ClusterGate
