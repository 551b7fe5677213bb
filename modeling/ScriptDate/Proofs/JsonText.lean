import ScriptDate.Proofs.WrittenNumbers
import ScriptDate.Text.Json

/-!
# JSON text read back

A reader of JSON text that knows nothing of the layouts: it passes over blanks wherever they may
stand, takes a character of a string plain or escaped, and wants a number without leading zeros.
From the layout in lines it gets the value that was laid out, whatever comes after it
(`Json.value?_pretty`).
-/

namespace ScriptDate.Text.Json

/-! ## The reader -/

/-- A blank between the parts of a value. -/
def isSpace (c : Char) : Bool := c = ' ' || c = '\n' || c = '\r' || c = '\t'

def skip (cs : List Char) : List Char := cs.dropWhile isSpace

/-- The value of a hexadecimal digit in either case. -/
def hexDigit? (c : Char) : Option Nat :=
  if c.isDigit then some (c.toNat - '0'.toNat)
  else if 'a' ≤ c ∧ c ≤ 'f' then some (c.toNat - 'a'.toNat + 10)
  else if 'A' ≤ c ∧ c ≤ 'F' then some (c.toNat - 'A'.toNat + 10)
  else none

/-- The character of a code in hexadecimal digits. A half of a surrogate pair is none. -/
def ofHex? (ds : List Char) : Option Char := do
  let n ← ds.foldlM (fun n d => (hexDigit? d).map (16 * n + ·)) 0
  if n.isValidChar then some (Char.ofNat n) else none

/-- The character that an escape of one letter stands for. -/
def ofEscape? (c : Char) : Option Char :=
  if c = '"' || c = '\\' || c = '/' then some c
  else if c = 'b' then some '\x08'
  else if c = 'f' then some '\x0c'
  else if c = 'n' then some '\n'
  else if c = 'r' then some '\r'
  else if c = 't' then some '\t'
  else none

/-- The characters of a string after its first quote, up to the last one. -/
def characters? : List Char → Option (List Char × List Char)
  | [] => none
  | '"' :: rest => some ([], rest)
  | '\\' :: 'u' :: c₁ :: c₂ :: c₃ :: c₄ :: rest => do
    let c ← ofHex? [c₁, c₂, c₃, c₄]
    let (cs, rest) ← characters? rest
    some (c :: cs, rest)
  | '\\' :: c :: rest => do
    let c ← ofEscape? c
    let (cs, rest) ← characters? rest
    some (c :: cs, rest)
  | c :: rest => do
    let (cs, rest) ← characters? rest
    if c.toNat < 32 then none else some (c :: cs, rest)

/-- A number, which does not begin with a zero unless it is one. -/
def natural? (cs : List Char) : Option (Nat × List Char) := do
  let (n, rest) ← numeral? 1 cs
  if digits n ++ rest = cs then some (n, rest) else none

/-- The name of a member, with the colon after it. -/
def name? (cs : List Char) : Option (String × List Char) := do
  let (name, rest) ← characters? (← char? '"' (skip cs))
  let rest ← char? ':' (skip rest)
  some (String.ofList name, rest)

mutual

/-- The value in front of a text, taken apart no deeper than `fuel`. -/
def value? : Nat → List Char → Option (Json × List Char)
  | 0, _ => none
  | fuel + 1, cs =>
    match skip cs with
    | [] => none
    | c :: rest =>
      if c = '"' then (characters? rest).map fun (cs, rest) => (.text cs, rest)
      else if c = '[' then
        match char? ']' (skip rest) with
        | some rest => some (.array [], rest)
        | none => (items? fuel rest).map fun (items, rest) => (.array items, rest)
      else if c = '\x7b' then
        match char? '\x7d' (skip rest) with
        | some rest => some (.object [], rest)
        | none => (members? fuel rest).map fun (members, rest) => (.object members, rest)
      else (natural? (c :: rest)).map fun (n, rest) => (.number n, rest)

/-- The items of an array from the first one to the closing bracket. -/
def items? : Nat → List Char → Option (List Json × List Char)
  | 0, _ => none
  | fuel + 1, cs => do
    let (item, rest) ← value? fuel cs
    match skip rest with
    | ',' :: rest => (items? fuel rest).map fun (items, rest) => (item :: items, rest)
    | ']' :: rest => some ([item], rest)
    | _ => none

/-- The members of an object from the first one to the closing brace. -/
def members? : Nat → List Char → Option (List (String × Json) × List Char)
  | 0, _ => none
  | fuel + 1, cs => do
    let (name, rest) ← name? cs
    let (item, rest) ← value? fuel rest
    match skip rest with
    | ',' :: rest => (members? fuel rest).map fun (members, rest) => ((name, item) :: members, rest)
    | '\x7d' :: rest => some ([(name, item)], rest)
    | _ => none

end

/-- The value that makes up the whole text. -/
def ofText? (cs : List Char) : Option Json := do
  let (v, rest) ← value? (cs.length + 1) cs
  if (skip rest).isEmpty then some v else none

/-! ## The parts of a value -/

/-- The value of the first member of a name. -/
def member? (name : String) : Json → Option Json
  | .object members => (members.find? fun m => m.1 = name).map Prod.snd
  | _ => none

def toNat? : Json → Option Nat
  | .number n => some n
  | _ => none

def toText? : Json → Option (List Char)
  | .text cs => some cs
  | _ => none

def toItems? : Json → Option (List Json)
  | .array items => some items
  | _ => none

variable {c : Char} {cs rest : List Char} {fuel n : Nat}

/-! ## Blanks -/

theorem skip_of_head (hc : isSpace c = false) (cs : List Char) : skip (c :: cs) = c :: cs := by
  simp [skip, hc]

theorem skip_indent (level : Nat) (cs : List Char) : skip (indent level ++ cs) = skip cs := by
  have hspaces : ∀ c ∈ indent level, isSpace c = true := by
    intro c hc
    rcases List.mem_cons.mp hc with rfl | hc
    · rfl
    · rw [List.eq_of_mem_replicate hc]
      rfl
  exact List.dropWhile_append_of_pos hspaces

theorem skip_indent_head (hc : isSpace c = false) (level : Nat) (cs : List Char) :
    skip (indent level ++ c :: cs) = c :: cs := by
  rw [skip_indent, skip_of_head hc]

/-! ## Strings -/

theorem characters?_unicode {ds : List Char} (hlength : ds.length = 4) (hc : ofHex? ds = some c)
    (rest : List Char) : characters? ('\\' :: 'u' :: (ds ++ rest))
      = (characters? rest).map fun r => (c :: r.1, r.2) := by
  match ds, hlength with
  | [c₁, c₂, c₃, c₄], _ =>
    simp only [List.cons_append, List.nil_append, characters?, hc]
    cases characters? rest <;> rfl

theorem characters?_escape {e : Char} (he : e ≠ 'u') (hc : ofEscape? e = some c)
    (rest : List Char) : characters? ('\\' :: e :: rest)
      = (characters? rest).map fun r => (c :: r.1, r.2) := by
  rw [characters?]
  · rw [hc]
    cases characters? rest <;> rfl
  · simp [he]

theorem characters?_plain (hquote : c ≠ '"') (hslash : c ≠ '\\') (hcontrol : ¬ c.toNat < 32)
    (rest : List Char) :
    characters? (c :: rest) = (characters? rest).map fun r => (c :: r.1, r.2) := by
  rw [characters?]
  · simp only [if_neg hcontrol]
    cases characters? rest <;> rfl
  · simp [hquote]
  · simp [hslash]
  · simp [hslash]

/-- A character is read back, however it is written. -/
theorem characters?_stringChar (c : Char) (rest : List Char) :
    characters? (stringChar c ++ rest) = (characters? rest).map fun r => (c :: r.1, r.2) := by
  have table : ∀ n < 32, (padLeft '0' 4 (Nat.toDigits 16 n)).length = 4
      ∧ ofHex? (padLeft '0' 4 (Nat.toDigits 16 n)) = some (Char.ofNat n) := by decide
  unfold stringChar
  split_ifs with hquote hslash hb hf hn hr ht hcontrol
  · exact hquote ▸ characters?_escape (e := '"') (by decide) rfl rest
  · exact hslash ▸ characters?_escape (e := '\\') (by decide) rfl rest
  · exact hb ▸ characters?_escape (by decide) rfl rest
  · exact hf ▸ characters?_escape (by decide) rfl rest
  · exact hn ▸ characters?_escape (by decide) rfl rest
  · exact hr ▸ characters?_escape (by decide) rfl rest
  · exact ht ▸ characters?_escape (by decide) rfl rest
  · obtain ⟨hlength, hc⟩ := table c.toNat hcontrol
    rw [Char.ofNat_toNat] at hc
    exact characters?_unicode hlength hc rest
  · exact characters?_plain hquote hslash hcontrol rest

theorem characters?_string (cs rest : List Char) :
    characters? (cs.flatMap stringChar ++ '"' :: rest) = some (cs, rest) := by
  induction cs with
  | nil => rw [List.flatMap_nil, List.nil_append, characters?]
  | cons c cs ih =>
    rw [List.flatMap_cons, List.append_assoc, characters?_stringChar, ih]
    rfl

/-! ## One value -/

theorem natural?_digits (hrest : ∀ c ∈ rest.head?, c.isDigit = false) (n : Nat) :
    natural? (digits n ++ rest) = some (n, rest) := by
  have hread : numeral? 1 (digits n ++ rest) = some (n, rest) := by
    rw [← padded_zero]
    exact numeral?_append (List.length_pos_iff.mpr (padded_ne_nil 0 n)) hrest
  simp [natural?, hread]

/-- A character that a value can begin with. -/
structure Opens (c : Char) : Prop where
  isSpace : isSpace c = false
  ne_bracket : c ≠ ']'

theorem opens_of_isDigit (hc : c.isDigit = true) : Opens c :=
  ⟨forall_isDigit (P := fun c => isSpace c = false) (by decide) hc,
    forall_isDigit (P := fun c => c ≠ ']') (by decide) hc⟩

theorem exists_pretty (level : Nat) (v : Json) : ∃ c cs, pretty level v = c :: cs ∧ Opens c := by
  cases v with
  | number n =>
    obtain ⟨c, cs, hc, h⟩ := padded_append 0 n []
    rw [padded_zero, List.append_nil] at h
    exact ⟨c, cs, by rw [pretty, h], opens_of_isDigit hc⟩
  | text cs => exact ⟨'"', _, rfl, by constructor <;> decide⟩
  | array items => cases items <;> exact ⟨'[', _, rfl, by constructor <;> decide⟩
  | object members => cases members <;> exact ⟨'\x7b', _, rfl, by constructor <;> decide⟩

theorem skip_pretty (level : Nat) (v : Json) (rest : List Char) :
    skip (pretty level v ++ rest) = pretty level v ++ rest := by
  obtain ⟨c, cs, h, hc⟩ := exists_pretty level v
  rw [h, List.cons_append, skip_of_head hc.isSpace]

theorem skip_indent_pretty (level : Nat) (v : Json) (rest : List Char) :
    skip (indent level ++ pretty level v ++ rest) = pretty level v ++ rest := by
  rw [List.append_assoc, skip_indent, skip_pretty]

theorem skip_blank_pretty (level : Nat) (v : Json) (rest : List Char) :
    skip (' ' :: (pretty level v ++ rest)) = pretty level v ++ rest := skip_pretty level v rest

theorem value?_number (hcs : skip cs = digits n ++ rest)
    (hrest : ∀ c ∈ rest.head?, c.isDigit = false) :
    value? (fuel + 1) cs = some (.number n, rest) := by
  obtain ⟨c, ds, hc, h⟩ := padded_append 0 n rest
  rw [padded_zero] at h
  have hquote : c ≠ '"' := forall_isDigit (P := fun c => c ≠ '"') (by decide) hc
  have hbracket : c ≠ '[' := forall_isDigit (P := fun c => c ≠ '[') (by decide) hc
  have hbrace : c ≠ '\x7b' := forall_isDigit (P := fun c => c ≠ '\x7b') (by decide) hc
  simp only [value?, hcs, h, if_neg hquote, if_neg hbracket, if_neg hbrace]
  rw [← h, natural?_digits hrest]
  rfl

theorem value?_text {text : List Char} (hcs : skip cs = string text ++ rest) :
    value? (fuel + 1) cs = some (.text text, rest) := by
  rw [string, List.append_assoc] at hcs
  simp only [value?, hcs, List.cons_append, List.nil_append, ↓reduceIte, characters?_string,
    Option.map_some]

theorem value?_array (hcs : skip cs = '[' :: rest) (hrest : char? ']' (skip rest) = none) :
    value? (fuel + 1) cs = (items? fuel rest).map fun r => (.array r.1, r.2) := by
  simp [value?, hcs, hrest]

theorem value?_object (hcs : skip cs = '\x7b' :: rest) (hrest : char? '\x7d' (skip rest) = none) :
    value? (fuel + 1) cs = (members? fuel rest).map fun r => (.object r.1, r.2) := by
  simp [value?, hcs, hrest]

theorem items?_comma {item : Json} {rest' : List Char} (hitem : value? fuel cs = some (item, rest))
    (hrest : skip rest = ',' :: rest') :
    items? (fuel + 1) cs = (items? fuel rest').map fun r => (item :: r.1, r.2) := by
  simp [items?, hitem, hrest]

theorem items?_bracket {item : Json} {rest' : List Char}
    (hitem : value? fuel cs = some (item, rest)) (hrest : skip rest = ']' :: rest') :
    items? (fuel + 1) cs = some ([item], rest') := by
  simp [items?, hitem, hrest]

theorem name?_string {name : String} (hcs : skip cs = string name.toList ++ ':' :: rest) :
    name? cs = some (name, rest) := by
  have hcolon : skip (':' :: rest) = ':' :: rest := skip_of_head (by decide) rest
  rw [string, List.append_assoc] at hcs
  simp [name?, hcs, char?_self, characters?_string, hcolon]

theorem name?_indent (level : Nat) (name : String) (rest : List Char) :
    name? (indent level ++ (string name.toList ++ ':' :: rest)) = some (name, rest) :=
  name?_string (skip_indent_head (by decide) level _)

theorem members?_comma {name : String} {item : Json} {cs' rest' : List Char}
    (hname : name? cs = some (name, cs')) (hitem : value? fuel cs' = some (item, rest))
    (hrest : skip rest = ',' :: rest') :
    members? (fuel + 1) cs = (members? fuel rest').map fun r => ((name, item) :: r.1, r.2) := by
  simp [members?, hname, hitem, hrest]

theorem members?_brace {name : String} {item : Json} {cs' rest' : List Char}
    (hname : name? cs = some (name, cs')) (hitem : value? fuel cs' = some (item, rest))
    (hrest : skip rest = '\x7d' :: rest') :
    members? (fuel + 1) cs = some ([(name, item)], rest') := by
  simp [members?, hname, hitem, hrest]

/-! ## The layout in lines -/

theorem prettyItems_singleton (level : Nat) (item : Json) (rest : List Char) :
    prettyItems level [item] ++ rest = indent level ++ pretty level item ++ rest := by
  rw [prettyItems]

theorem prettyItems_cons (level : Nat) (item item' : Json) (items : List Json)
    (rest : List Char) :
    prettyItems level (item :: item' :: items) ++ rest
      = indent level ++ pretty level item ++
        ',' :: (prettyItems level (item' :: items) ++ rest) := by
  rw [prettyItems]
  · simp
  · simp

theorem prettyMembers_singleton (level : Nat) (name : String) (item : Json) (rest : List Char) :
    prettyMembers level [(name, item)] ++ rest
      = indent level ++ (string name.toList ++ ':' :: ' ' :: (pretty level item ++ rest)) := by
  rw [prettyMembers]
  simp

theorem prettyMembers_cons (level : Nat) (name : String) (item : Json) (m : String × Json)
    (members : List (String × Json)) (rest : List Char) :
    prettyMembers level ((name, item) :: m :: members) ++ rest
      = indent level ++ (string name.toList ++ ':' :: ' ' ::
        (pretty level item ++ ',' :: (prettyMembers level (m :: members) ++ rest))) := by
  rw [prettyMembers]
  · simp
  · simp

theorem pretty_array (level : Nat) (item : Json) (items : List Json) (rest : List Char) :
    pretty level (.array (item :: items)) ++ rest
      = '[' :: (prettyItems (level + 1) (item :: items) ++ (indent level ++ ']' :: rest)) := by
  rw [pretty]
  · simp
  · simp

theorem pretty_object (level : Nat) (m : String × Json) (members : List (String × Json))
    (rest : List Char) :
    pretty level (.object (m :: members)) ++ rest = '\x7b' ::
      (prettyMembers (level + 1) (m :: members) ++ (indent level ++ '\x7d' :: rest)) := by
  rw [pretty]
  · simp
  · simp

/-! Each part of a layout is shorter than the whole, by what stands around it. -/

theorem length_prettyItems_lt (level : Nat) (item : Json) (items : List Json) :
    (prettyItems (level + 1) (item :: items)).length
      < (pretty level (.array (item :: items))).length := by
  have h := congrArg List.length (pretty_array level item items [])
  simp only [List.append_nil, List.length_cons, List.length_append] at h
  omega

theorem length_prettyMembers_lt (level : Nat) (m : String × Json)
    (members : List (String × Json)) :
    (prettyMembers (level + 1) (m :: members)).length
      < (pretty level (.object (m :: members))).length := by
  have h := congrArg List.length (pretty_object level m members [])
  simp only [List.append_nil, List.length_cons, List.length_append] at h
  omega

theorem length_item_lt (level : Nat) (item : Json) (items : List Json) :
    (pretty level item).length < (prettyItems level (item :: items)).length := by
  cases items with
  | nil =>
    have h := congrArg List.length (prettyItems_singleton level item [])
    simp only [indent, List.append_nil, List.length_cons, List.length_append] at h
    omega
  | cons item' items =>
    have h := congrArg List.length (prettyItems_cons level item item' items [])
    simp only [List.append_nil, List.length_cons, List.length_append] at h
    omega

theorem length_items_lt (level : Nat) (item item' : Json) (items : List Json) :
    (prettyItems level (item' :: items)).length
      < (prettyItems level (item :: item' :: items)).length := by
  have h := congrArg List.length (prettyItems_cons level item item' items [])
  simp only [List.append_nil, List.length_cons, List.length_append] at h
  omega

theorem length_member_lt (level : Nat) (name : String) (item : Json)
    (members : List (String × Json)) :
    (pretty level item).length < (prettyMembers level ((name, item) :: members)).length := by
  cases members with
  | nil =>
    have h := congrArg List.length (prettyMembers_singleton level name item [])
    simp only [List.append_nil, List.length_cons, List.length_append] at h
    omega
  | cons m members =>
    have h := congrArg List.length (prettyMembers_cons level name item m members [])
    simp only [List.append_nil, List.length_cons, List.length_append] at h
    omega

theorem length_members_lt (level : Nat) (name : String) (item : Json) (m : String × Json)
    (members : List (String × Json)) :
    (prettyMembers level (m :: members)).length
      < (prettyMembers level ((name, item) :: m :: members)).length := by
  have h := congrArg List.length (prettyMembers_cons level name item m members [])
  simp only [List.append_nil, List.length_cons, List.length_append] at h
  omega

/-- An array with items does not close where the first one begins. -/
theorem char?_prettyItems (level : Nat) (item : Json) (items : List Json) (rest : List Char) :
    char? ']' (skip (prettyItems level (item :: items) ++ rest)) = none := by
  obtain ⟨c, cs, hpretty, hc⟩ := exists_pretty level item
  cases items with
  | nil =>
    rw [prettyItems_singleton, skip_indent_pretty, hpretty]
    exact if_neg hc.ne_bracket
  | cons item' items =>
    rw [prettyItems_cons, skip_indent_pretty, hpretty]
    exact if_neg hc.ne_bracket

theorem char?_prettyMembers (level : Nat) (m : String × Json) (members : List (String × Json))
    (rest : List Char) :
    char? '\x7d' (skip (prettyMembers level (m :: members) ++ rest)) = none := by
  have hquote : isSpace '"' = false := by decide
  cases members with
  | nil =>
    rw [prettyMembers_singleton]
    exact (congrArg (char? '\x7d') (skip_indent_head hquote level _)).trans rfl
  | cons m' members =>
    rw [prettyMembers_cons]
    exact (congrArg (char? '\x7d') (skip_indent_head hquote level _)).trans rfl

-- Mutual over a value, the items of an array and the members of an object, as the reader is. Each
-- step down takes one from the fuel and leaves at least a bracket, a name or a comma behind, so the
-- text that is left stays shorter than the fuel.
mutual

/-- A value is read back from its layout, at any level and whatever follows but a digit. -/
theorem value?_pretty (level : Nat) {cs rest : List Char} : ∀ (v : Json) (k : Nat),
    (pretty level v).length < k → (∀ c ∈ rest.head?, c.isDigit = false) →
      skip cs = pretty level v ++ rest → value? k cs = some (v, rest)
  | _, 0, hlength, _, _ => absurd hlength (Nat.not_lt_zero _)
  | .number n, k + 1, _, hrest, hcs => value?_number hcs hrest
  | .text cs, k + 1, _, _, hcs => value?_text hcs
  | .array [], k + 1, _, _, hcs => by
    have hopen : skip cs = '[' :: ']' :: rest := hcs
    simp [value?, hopen, skip_of_head, isSpace, char?_self]
  | .array (item :: items), k + 1, hlength, _, hcs => by
    rw [pretty_array] at hcs
    have hshort := Nat.lt_of_lt_of_le (length_prettyItems_lt level item items)
      (Nat.le_of_lt_succ hlength)
    rw [value?_array hcs (char?_prettyItems _ _ _ _),
      items?_pretty (level + 1) level (item :: items) k (by simp) hshort]
    rfl
  | .object [], k + 1, _, _, hcs => by
    have hopen : skip cs = '\x7b' :: '\x7d' :: rest := hcs
    simp [value?, hopen, skip_of_head, isSpace, char?_self]
  | .object (m :: members), k + 1, hlength, _, hcs => by
    rw [pretty_object] at hcs
    have hshort := Nat.lt_of_lt_of_le (length_prettyMembers_lt level m members)
      (Nat.le_of_lt_succ hlength)
    rw [value?_object hcs (char?_prettyMembers _ _ _ _),
      members?_pretty (level + 1) level (m :: members) k (by simp) hshort]
    rfl

theorem items?_pretty (level outer : Nat) {rest : List Char} : ∀ (items : List Json) (k : Nat),
    items ≠ [] → (prettyItems level items).length < k →
      items? k (prettyItems level items ++ (indent outer ++ ']' :: rest)) = some (items, rest)
  | [], _, hne, _ => absurd rfl hne
  | _ :: _, 0, _, hlength => absurd hlength (Nat.not_lt_zero _)
  | [item], k + 1, _, hlength => by
    have hshort := Nat.lt_of_lt_of_le (length_item_lt level item []) (Nat.le_of_lt_succ hlength)
    have hitem := value?_pretty level item k hshort (by simp [indent])
      (skip_indent_pretty level item (indent outer ++ ']' :: rest))
    rw [prettyItems_singleton, items?_bracket hitem (skip_indent_head (by decide) outer rest)]
  | item :: item' :: items, k + 1, _, hlength => by
    have hfirst := Nat.lt_of_lt_of_le (length_item_lt level item (item' :: items))
      (Nat.le_of_lt_succ hlength)
    have hothers := Nat.lt_of_lt_of_le (length_items_lt level item item' items)
      (Nat.le_of_lt_succ hlength)
    have hitem := value?_pretty level item k hfirst (by simp) (skip_indent_pretty level item
      (',' :: (prettyItems level (item' :: items) ++ (indent outer ++ ']' :: rest))))
    rw [prettyItems_cons, items?_comma hitem (skip_of_head (by decide) _),
      items?_pretty level outer (item' :: items) k (by simp) hothers]
    rfl

theorem members?_pretty (level outer : Nat) {rest : List Char} :
    ∀ (members : List (String × Json)) (k : Nat), members ≠ [] →
      (prettyMembers level members).length < k →
        members? k (prettyMembers level members ++ (indent outer ++ '\x7d' :: rest))
          = some (members, rest)
  | [], _, hne, _ => absurd rfl hne
  | _ :: _, 0, _, hlength => absurd hlength (Nat.not_lt_zero _)
  | [(name, item)], k + 1, _, hlength => by
    have hshort := Nat.lt_of_lt_of_le (length_member_lt level name item [])
      (Nat.le_of_lt_succ hlength)
    have hitem := value?_pretty level item k hshort (by simp [indent])
      (skip_blank_pretty level item (indent outer ++ '\x7d' :: rest))
    rw [prettyMembers_singleton, members?_brace (name?_indent level name _) hitem
      (skip_indent_head (by decide) outer rest)]
  | (name, item) :: m :: members, k + 1, _, hlength => by
    have hfirst := Nat.lt_of_lt_of_le (length_member_lt level name item (m :: members))
      (Nat.le_of_lt_succ hlength)
    have hothers := Nat.lt_of_lt_of_le (length_members_lt level name item m members)
      (Nat.le_of_lt_succ hlength)
    have hitem := value?_pretty level item k hfirst (by simp) (skip_blank_pretty level item
      (',' :: (prettyMembers level (m :: members) ++ (indent outer ++ '\x7d' :: rest))))
    rw [prettyMembers_cons, members?_comma (name?_indent level name _) hitem
      (skip_of_head (by decide) _),
      members?_pretty level outer (m :: members) k (by simp) hothers]
    rfl

end

/-- The layout of a value in lines, with its end of line, is the text of that value. -/
theorem ofText?_pretty (v : Json) : ofText? (pretty 0 v ++ ['\n']) = some v := by
  have hv : value? ((pretty 0 v ++ ['\n']).length + 1) (pretty 0 v ++ ['\n']) = some (v, ['\n']) :=
    value?_pretty 0 v _ (by rw [List.length_append]; omega) (by simp) (skip_pretty 0 v _)
  exact (bind_of_eq_some hv _).trans rfl

example : ((ofText? "\x7b \"a\" : 10 \x7d".toList).bind (member? "a")).bind toNat? = some 10 := by
  decide +kernel

end ScriptDate.Text.Json
