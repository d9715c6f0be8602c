import ApiManual.Json.Printer
import ApiManual.Json.Reader
import Mathlib.Data.List.Basic

/-!
Printed values read back. Values with numbers are left out: where a number ends depends on the text
after it, and its literal may be one that no reader takes.
-/
namespace ApiManual.Json

variable {value : Value} {level below fuel : Nat} {rest : List Char}

mutual

def spell : Value → Spelled
  | .null => .null
  | .bool value => .bool value
  | .number literal => .number literal
  | .string text => .string (some text)
  | .array items => .array (spellItems items)
  | .object members => .object (spellMembers members)

def spellItems : List Value → List Spelled
  | [] => []
  | item :: rest => spell item :: spellItems rest

def spellMembers : List (String × Value) → List (Option String × Spelled)
  | [] => []
  | (name, value) :: rest => (some name, spell value) :: spellMembers rest

end

inductive NumberFree : Value → Prop
  | null : NumberFree .null
  | bool (value : Bool) : NumberFree (.bool value)
  | string (text : String) : NumberFree (.string text)
  | array {items : List Value} (free : ∀ item ∈ items, NumberFree item) : NumberFree (.array items)
  | object {members : List (String × Value)} (free : ∀ member ∈ members, NumberFree member.2) :
      NumberFree (.object members)

theorem numberFree_strings (texts : List String) : NumberFree (strings texts) := by
  refine .array ?_
  rw [List.forall_mem_map]
  exact fun text _ => .string text

theorem digit?_hexDigit : ∀ n < 16, Text.Hexadecimal.digit? (hexDigit n) = some n := by
  decide

theorem number?_hexDigits {n : Nat} (h : n < 256) :
    Text.Hexadecimal.number? ['0', '0', hexDigit (n / 16), hexDigit (n % 16)] = some n := by
  have hzero : Text.Hexadecimal.digit? '0' = some 0 := by decide
  have hhigh := digit?_hexDigit (n / 16) (by omega)
  have hlow := digit?_hexDigit (n % 16) (by omega)
  simp only [Text.Hexadecimal.number?, List.foldlM_cons, List.foldlM_nil, hzero, hhigh, hlow,
    Option.map_some, Option.bind_eq_bind, Option.bind_some, Option.pure_def, Option.some.injEq]
  omega

theorem stringUnits?_escape (c : Char) (rest : List Char) : stringUnits? (escape c ++ rest) =
    (stringUnits? rest).map fun (units, rest) => (c.toNat :: units, rest) := by
  have hescaped : ∀ e c : Char, e ≠ 'u' → escaped? e = some c →
      stringUnits? ('\\' :: e :: rest) =
        (stringUnits? rest).map fun (units, rest) => (c.toNat :: units, rest) := by
    intro e c he hc
    rw [stringUnits?, hc]
    · cases stringUnits? rest <;> rfl
    · intro _ _ _ _ _ heq
      exact absurd heq he
  rw [escape]
  split_ifs with hquote hbackslash hbackspace htab hline hpage hreturn hcontrol
  · subst hquote
    exact hescaped _ _ (by decide) rfl
  · subst hbackslash
    exact hescaped _ _ (by decide) rfl
  · subst hbackspace
    exact hescaped _ _ (by decide) rfl
  · subst htab
    exact hescaped _ _ (by decide) rfl
  · subst hline
    exact hescaped _ _ (by decide) rfl
  · subst hpage
    exact hescaped _ _ (by decide) rfl
  · subst hreturn
    exact hescaped _ _ (by decide) rfl
  · have hnumber := number?_hexDigits (n := c.toNat) (by omega)
    simp only [List.cons_append, List.nil_append, stringUnits?, hnumber]
    cases stringUnits? rest <;> rfl
  · rw [List.singleton_append, stringUnits?]
    · rw [if_neg (by simp [hcontrol, hbackslash])]
      cases stringUnits? rest <;> rfl
    · exact hquote
    · exact fun _ _ _ _ _ heq => absurd heq hbackslash
    · exact fun _ _ heq => absurd heq hbackslash

theorem stringUnits?_quoted (text rest : List Char) :
    stringUnits? (text.flatMap escape ++ '"' :: rest) = some (text.map Char.toNat, rest) := by
  induction text with
  | nil => rfl
  | cons c text ih =>
    rw [List.flatMap_cons, List.append_assoc, stringUnits?_escape, ih]
    rfl

theorem surrogate_toNat (c : Char) :
    isHighSurrogate c.toNat = false ∧ isLowSurrogate c.toNat = false := by
  have hvalid := c.valid
  simp only [UInt32.isValidChar, Nat.isValidChar] at hvalid
  simp only [isHighSurrogate, isLowSurrogate, Char.toNat, Bool.and_eq_false_iff,
    decide_eq_false_iff_not]
  omega

theorem textOfUnits?_toNat (text : List Char) : textOfUnits? (text.map Char.toNat) = some text := by
  induction text with
  | nil => rfl
  | cons c rest ih =>
    cases rest with
    | nil => simp [textOfUnits?, surrogate_toNat]
    | cons next rest =>
      rw [List.map_cons] at ih
      simp [textOfUnits?, surrogate_toNat, ih]

theorem string?_quoted (text : String) (rest : List Char) :
    string? (text.toList.flatMap escape ++ '"' :: rest) = some (some text, rest) := by
  simp only [string?, stringUnits?_quoted, Option.map_some, textOfUnits?_toNat,
    String.ofList_toList]

theorem skipBlanks_newline (level : Nat) (text : List Char) :
    skipBlanks (newline level ++ text) = skipBlanks text := by
  refine List.dropWhile_append_of_pos fun c hc => ?_
  rcases List.mem_cons.mp hc with rfl | hc
  · rfl
  · rw [List.eq_of_mem_replicate hc]
    rfl

theorem skipBlanks_comma (text : List Char) : skipBlanks (',' :: text) = ',' :: text := rfl

theorem value?_newline (fuel level : Nat) (text : List Char) :
    value? fuel (newline level ++ text) = value? fuel text := by
  cases fuel with
  | zero => rfl
  | succ fuel => rw [value?, value?, skipBlanks_newline]

theorem items?_newline (fuel level : Nat) (text : List Char) :
    items? fuel (newline level ++ text) = items? fuel text := by
  cases fuel with
  | zero => rfl
  | succ fuel => rw [items?, items?, value?_newline]

theorem members?_newline (fuel level : Nat) (text : List Char) :
    members? fuel (newline level ++ text) = members? fuel text := by
  cases fuel with
  | zero => rfl
  | succ fuel => rw [members?, members?, skipBlanks_newline]

theorem NumberFree.head_prettyAt (free : NumberFree value) (level : Nat) :
    ∃ c text, prettyAt level value = c :: text ∧ isBlank c = false ∧ c ≠ ']' := by
  cases free with
  | null => exact ⟨_, _, rfl, rfl, by decide⟩
  | bool value => cases value <;> exact ⟨_, _, rfl, rfl, by decide⟩
  | string text => exact ⟨_, _, rfl, rfl, by decide⟩
  | @array items _ => cases items <;> exact ⟨_, _, rfl, rfl, by decide⟩
  | @object members _ => cases members <;> exact ⟨_, _, rfl, rfl, by decide⟩

/-- Enough fuel for the printed text reads the value and leaves what comes after it. -/
def ReadsBack (value : Value) : Prop :=
  ∀ level fuel rest, (prettyAt level value).length ≤ fuel →
    value? fuel (prettyAt level value ++ rest) = some (spell value, rest)

theorem items?_item (reads : ReadsBack value) (text : List Char)
    (hfuel : (prettyAt level value).length ≤ fuel) :
    items? (fuel + 1) (prettyAt level value ++ text) =
      match skipBlanks text with
      | ',' :: rest => do
        let (items, rest) ← items? fuel rest
        return (spell value :: items, rest)
      | ']' :: rest => some ([spell value], rest)
      | _ => none := by
  rw [items?, reads level fuel text hfuel]
  rfl

theorem items?_pretty {item : Value} {items : List Value} (first : ReadsBack item)
    (others : ∀ other ∈ items, ReadsBack other)
    (hfuel : (prettyAt level item).length + (prettyItems level items).length < fuel) :
    items? fuel (prettyAt level item ++ (prettyItems level items ++
      (newline below ++ ']' :: rest))) = some (spellItems (item :: items), rest) := by
  -- an item takes one unit of fuel, and no less text than that
  induction items generalizing item fuel with
  | nil =>
    obtain ⟨fuel, rfl⟩ := Nat.exists_eq_add_one_of_ne_zero (Nat.ne_zero_of_lt hfuel)
    rw [items?_item first _ (by omega), prettyItems, List.nil_append, skipBlanks_newline]
    rfl
  | cons next items ih =>
    obtain ⟨fuel, rfl⟩ := Nat.exists_eq_add_one_of_ne_zero (Nat.ne_zero_of_lt hfuel)
    obtain ⟨hnext, hothers⟩ := List.forall_mem_cons.mp others
    simp only [prettyItems, List.length_append, List.length_cons] at hfuel
    have hrest : items? fuel (prettyAt level next ++ (prettyItems level items ++
        (newline below ++ ']' :: rest))) = some (spellItems (next :: items), rest) :=
      ih hnext hothers (by omega)
    rw [items?_item first _ (by omega)]
    simp only [prettyItems, List.append_assoc, List.cons_append, skipBlanks_comma, items?_newline,
      hrest]
    rfl

theorem quote_append (name : String) (text : List Char) :
    quote name ++ text = '"' :: (name.toList.flatMap escape ++ '"' :: text) := by
  rw [quote, List.append_assoc]
  rfl

theorem skipBlanks_quote (name : String) (text : List Char) :
    skipBlanks (quote name ++ text) = '"' :: (name.toList.flatMap escape ++ '"' :: text) := by
  rw [quote_append]
  rfl

theorem members?_member {name : String} (reads : ReadsBack value) (text : List Char)
    (hfuel : (prettyAt level value).length ≤ fuel) :
    members? (fuel + 1) (quote name ++ ':' :: ' ' :: (prettyAt level value ++ text)) =
      match skipBlanks text with
      | ',' :: rest => do
        let (members, rest) ← members? fuel rest
        return ((some name, spell value) :: members, rest)
      | '}' :: rest => some ([(some name, spell value)], rest)
      | _ => none := by
  have hvalue : value? fuel (' ' :: (prettyAt level value ++ text)) = some (spell value, text) := by
    rw [← reads level fuel text hfuel]
    cases fuel with
    | zero => rfl
    | succ fuel => rw [value?, value?]; rfl
  rw [members?, skipBlanks_quote]
  simp only [Option.bind_eq_bind]
  rw [string?_quoted]
  change (value? fuel (' ' :: (prettyAt level value ++ text))).bind _ = _
  rw [hvalue]
  rfl

theorem members?_pretty {name : String} {value : Value} {members : List (String × Value)}
    (first : ReadsBack value) (others : ∀ other ∈ members, ReadsBack other.2)
    (hfuel : (prettyAt level value).length + (prettyMembers level members).length < fuel) :
    members? fuel (quote name ++ ':' :: ' ' :: (prettyAt level value ++
      (prettyMembers level members ++ (newline below ++ '}' :: rest)))) =
      some (spellMembers ((name, value) :: members), rest) := by
  induction members generalizing name value fuel with
  | nil =>
    obtain ⟨fuel, rfl⟩ := Nat.exists_eq_add_one_of_ne_zero (Nat.ne_zero_of_lt hfuel)
    rw [members?_member first _ (by omega), prettyMembers, List.nil_append, skipBlanks_newline]
    rfl
  | cons next members ih =>
    obtain ⟨fuel, rfl⟩ := Nat.exists_eq_add_one_of_ne_zero (Nat.ne_zero_of_lt hfuel)
    obtain ⟨hnext, hothers⟩ := List.forall_mem_cons.mp others
    simp only [prettyMembers, List.length_append, List.length_cons] at hfuel
    have hrest : members? fuel (quote next.1 ++ ':' :: ' ' :: (prettyAt level next.2 ++
        (prettyMembers level members ++ (newline below ++ '}' :: rest)))) =
          some (spellMembers (next :: members), rest) :=
      ih hnext hothers (by omega)
    rw [members?_member first _ (by omega)]
    simp only [prettyMembers, List.append_assoc, List.cons_append, skipBlanks_comma,
      members?_newline, hrest]
    rfl

theorem value?_array {text more : List Char} {c : Char} (htext : skipBlanks text = c :: more)
    (hitem : c ≠ ']') : value? (fuel + 1) ('[' :: text) =
      (items? fuel (c :: more)).map fun (items, rest) => (.array items, rest) := by
  have hopening : skipBlanks ('[' :: text) = '[' :: text := rfl
  rw [value?, hopening]
  simp only [htext]
  split
  · rename_i heq
    exact absurd (List.cons.inj heq).1 hitem
  · rfl

theorem value?_object {text more : List Char} (htext : skipBlanks text = '"' :: more) :
    value? (fuel + 1) ('{' :: text) =
      (members? fuel ('"' :: more)).map fun (members, rest) => (.object members, rest) := by
  have hopening : skipBlanks ('{' :: text) = '{' :: text := rfl
  rw [value?, hopening]
  simp only [htext]
  rfl

/-- Printed text is never empty, so there is fuel for its first step. -/
theorem NumberFree.readsBack_of_succ (free : NumberFree value)
    (h : ∀ level fuel rest, (prettyAt level value).length ≤ fuel + 1 →
      value? (fuel + 1) (prettyAt level value ++ rest) = some (spell value, rest)) :
    ReadsBack value := by
  intro level fuel rest hfuel
  cases fuel with
  | zero =>
    obtain ⟨c, text, htext, -, -⟩ := free.head_prettyAt level
    simp [htext] at hfuel
  | succ fuel => exact h level fuel rest hfuel

theorem readsBack (free : NumberFree value) : ReadsBack value := by
  induction free with
  | null => exact NumberFree.null.readsBack_of_succ fun _ _ _ _ => rfl
  | bool value =>
    refine (NumberFree.bool value).readsBack_of_succ fun _ _ _ _ => ?_
    cases value <;> rfl
  | string text =>
    refine (NumberFree.string text).readsBack_of_succ fun _ _ _ _ => ?_
    rw [prettyAt, value?, skipBlanks_quote]
    simp only [string?_quoted]
    rfl
  | @array items free ih =>
    refine (NumberFree.array free).readsBack_of_succ fun level fuel rest hfuel => ?_
    cases items with
    | nil => rfl
    | cons item items =>
      obtain ⟨hitem, hitems⟩ := List.forall_mem_cons.mp ih
      obtain ⟨c, text, htext, hblank, hclosing⟩ :=
        (free item List.mem_cons_self).head_prettyAt (level + 1)
      have hread : items? fuel (prettyAt (level + 1) item ++ (prettyItems (level + 1) items ++
          (newline level ++ ']' :: rest))) = some (spellItems (item :: items), rest) :=
        items?_pretty hitem hitems (by simp [prettyAt] at hfuel; omega)
      have hskip : skipBlanks (newline (level + 1) ++ (prettyAt (level + 1) item ++
          (prettyItems (level + 1) items ++ (newline level ++ ']' :: rest)))) =
          c :: (text ++ (prettyItems (level + 1) items ++ (newline level ++ ']' :: rest))) := by
        rw [skipBlanks_newline, htext, List.cons_append, skipBlanks,
          List.dropWhile_cons_of_neg (by simp [hblank])]
      -- the text after the bracket is not the end of the list, so it is read as items
      rw [htext, List.cons_append] at hread
      simp only [prettyAt, List.append_assoc, List.cons_append, List.nil_append]
      rw [value?_array hskip hclosing, hread]
      rfl
  | @object members free ih =>
    refine (NumberFree.object free).readsBack_of_succ fun level fuel rest hfuel => ?_
    cases members with
    | nil => rfl
    | cons member members =>
      obtain ⟨hmember, hmembers⟩ := List.forall_mem_cons.mp ih
      have hread : members? fuel (quote member.1 ++ ':' :: ' ' :: (prettyAt (level + 1) member.2 ++
          (prettyMembers (level + 1) members ++ (newline level ++ '}' :: rest)))) =
          some (spellMembers (member :: members), rest) :=
        members?_pretty hmember hmembers (by simp [prettyAt] at hfuel; omega)
      simp only [prettyAt, List.append_assoc, List.cons_append, List.nil_append]
      rw [quote_append] at hread
      rw [value?_object (by rw [skipBlanks_newline, skipBlanks_quote]), hread]
      rfl

theorem ofText?_prettyText (free : NumberFree value) :
    ofText? (prettyText value) = some (spell value) := by
  have hread := readsBack free 0 (2 * (prettyAt 0 value).length + 2) [] (by omega)
  rw [List.append_nil] at hread
  rw [ofText?, prettyText, String.toList_ofList, ofChars?, hread]
  rfl

theorem clean?_spell (free : NumberFree value) : clean? (spell value) = some value := by
  induction free with
  | null => rfl
  | bool value => rfl
  | string text => rfl
  | @array items free ih =>
    have hitems : cleanItems? (spellItems items) = some items := by
      clear free
      induction items with
      | nil => rfl
      | cons item items hrest =>
        obtain ⟨hitem, hitems⟩ := List.forall_mem_cons.mp ih
        rw [spellItems, cleanItems?, hitem, hrest hitems]
        rfl
    rw [spell, clean?, hitems]
    rfl
  | @object members free ih =>
    have hmembers : cleanMembers? (spellMembers members) = some members := by
      clear free
      induction members with
      | nil => rfl
      | cons member members hrest =>
        obtain ⟨hmember, hmembers⟩ := List.forall_mem_cons.mp ih
        rw [spellMembers, cleanMembers?, hmember, hrest hmembers]
        rfl
    rw [spell, clean?, hmembers]
    rfl

end ApiManual.Json
