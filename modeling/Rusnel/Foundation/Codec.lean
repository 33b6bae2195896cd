import Rusnel.Foundation.MessagePack

/-!
# Codecs of compound values

A codec writes values and reads one off the front of its input.  Codecs of
records, lists and choices are put together from codecs of their parts.  A value
may come back changed, as where a part of it is not written; what comes back is
therefore a relation between the value written and the value read.

Main results:

- Theorems {lit}`Conveys.both`, {lit}`Conveys.array`, {lit}`Conveys.record` and
  {lit}`Conveys.option`: a compound conveys what its parts convey.
- Theorems {lit}`enum_conveys_unit` and {lit}`enum_conveys_content`: so does a
  choice among named variants.
-/

namespace MessagePack

open ByteStream

variable {α β : Type}

/-! ## Headers -/

namespace Header

variable {h : Header} {n : Nat}

/-- What is written starts with a byte of the header's own. -/
theorem write_eq_cons (hfits : h.Fits n) :
    ∃ marker tail, h.write n = marker :: tail ∧
      ((h.base ≤ marker.toNat ∧ marker.toNat < h.base + h.small) ∨
        ∃ w ∈ h.wide, w.1 = marker) := by
  by_cases hsmall : n < h.small
  · have hbase := h.base_add_small
    have hbyte : (UInt8.ofNat (h.base + n)).toNat = h.base + n := by
      rw [UInt8.toNat_ofNat', Nat.mod_eq_of_lt (by omega)]
    refine ⟨.ofNat (h.base + n), [], ?_, .inl ?_⟩
    · rw [write, if_pos hsmall]
    · rw [hbyte]
      omega
  · obtain ⟨marker, width, hfind, hmem, -⟩ := h.find_width hfits hsmall
    refine ⟨marker, (toLeBytes width n).reverse, ?_, .inr ⟨(marker, width), hmem, rfl⟩⟩
    rw [write, if_neg hsmall, hfind]

/-- A header is as long as its widest number at most. -/
theorem length_write_le {width : Nat} (hwidth : ∀ w ∈ h.wide, w.2 ≤ width) (n : Nat) :
    (h.write n).length ≤ 1 + width := by
  rw [write]
  split
  · simp
  · split
    · next marker width' hfind =>
        have hle : width' ≤ width := hwidth _ (List.mem_of_find?_eq_some hfind)
        simp only [List.length_cons, List.length_reverse, toLeBytes_length]
        omega
    · simp

end Header

/-- A number takes nine bytes at most. -/
theorem uint_length_le (n : Nat) : (uint.write n).length ≤ 9 := by
  have hwidth : ∀ w ∈ uint.wide, w.2 ≤ 8 := by decide
  have hlen := Header.length_write_le hwidth n
  omega

/-- A text takes five bytes more than it is long at most. -/
theorem writeStr_length_le (s : String) : (writeStr s).length ≤ 5 + (utf8 s).length := by
  have hlen : (strLen.write (utf8 s).length).length ≤ 1 + 4 :=
    Header.length_write_le (by decide) _
  rw [writeStr, List.length_append]
  omega

/-- A written text starts with no marker of a map or of nothing. -/
theorem writeStr_eq_cons {s : String} (h : (utf8 s).length < 2 ^ 32) :
    ∃ marker tail, writeStr s = marker :: tail ∧ marker ≠ 0x81 := by
  obtain ⟨marker, tail, hwrite, hmarker⟩ := Header.write_eq_cons (strLen_fits h)
  refine ⟨marker, tail ++ utf8 s, ?_, ?_⟩
  · rw [writeStr, hwrite, List.cons_append]
  · rintro rfl
    revert hmarker
    decide

/-! ## Codecs -/

/-- How values of one type are written and read. -/
structure Codec (α : Type) where
  write : α → List UInt8
  read : List UInt8 → Option (α × List UInt8)

namespace Codec

/-- What was written for `a` is read as `b`, whatever follows it. -/
def Conveys (c : Codec α) (a b : α) : Prop :=
  ∀ rest, c.read (c.write a ++ rest) = some (b, rest)

variable {c : Codec α}

theorem Conveys.read_write {a b : α} (h : c.Conveys a b) : c.read (c.write a) = some (b, []) := by
  have hread := h []
  rwa [List.append_nil] at hread

/-- The values of another type, seen through a codec. -/
def via (c : Codec α) (parse : α → Option β) (render : β → α) : Codec β where
  write b := c.write (render b)
  read input := do
    let (a, rest) ← c.read input
    let b ← parse a
    pure (b, rest)

theorem Conveys.via {parse : α → Option β} {render : β → α} {a : α} {b b' : β}
    (h : c.Conveys (render b) a) (hparse : parse a = some b') :
    (c.via parse render).Conveys b b' := by
  intro rest
  simp [Codec.via, h rest, hparse]

/-! ## Scalars -/

/-- Numbers below `size`. -/
def number (size : Nat) : Codec Nat where
  write n := uint.write n
  read input := do
    let (n, rest) ← uint.read input
    if n < size then pure (n, rest) else none

theorem number_conveys {size n : Nat} (hsize : size ≤ 2 ^ 64) (hn : n < size) :
    (number size).Conveys n n := by
  intro rest
  have hfits : uint.Fits n := .inr ⟨(0xcf, 8), by decide, Nat.lt_of_lt_of_le hn hsize⟩
  simp [number, uint.read_write hfits, hn]

def u8 : Codec UInt8 :=
  (number (2 ^ 8)).via (fun n => some (.ofNat n)) UInt8.toNat

def u16 : Codec UInt16 :=
  (number (2 ^ 16)).via (fun n => some (.ofNat n)) UInt16.toNat

def u64 : Codec UInt64 :=
  (number (2 ^ 64)).via (fun n => some (.ofNat n)) UInt64.toNat

theorem u8_conveys (n : UInt8) : u8.Conveys n n :=
  (number_conveys (by decide) n.toNat_lt).via (by simp)

theorem u16_conveys (n : UInt16) : u16.Conveys n n :=
  (number_conveys (by decide) n.toNat_lt).via (by simp)

theorem u64_conveys (n : UInt64) : u64.Conveys n n :=
  (number_conveys (by decide) n.toNat_lt).via (by simp)

def bool : Codec Bool where
  write b := [if b then 0xc3 else 0xc2]
  read
    | [] => none
    | marker :: rest =>
        if marker = 0xc3 then some (true, rest)
        else if marker = 0xc2 then some (false, rest)
        else none

theorem bool_conveys (b : Bool) : bool.Conveys b b := by
  intro rest
  cases b <;> rfl

def str : Codec String where
  write := writeStr
  read := readStr

theorem str_conveys {s : String} (h : (utf8 s).length < 2 ^ 32) : str.Conveys s s :=
  readStr_writeStr h

/-! ## Compounds -/

/-- One value behind another. -/
def both (c : Codec α) (d : Codec β) : Codec (α × β) where
  write p := c.write p.1 ++ d.write p.2
  read input := do
    let (a, rest) ← c.read input
    let (b, rest) ← d.read rest
    pure ((a, b), rest)

theorem Conveys.both {d : Codec β} {a a' : α} {b b' : β} (hc : c.Conveys a a')
    (hd : d.Conveys b b') : (c.both d).Conveys (a, b) (a', b') := by
  intro rest
  simp [Codec.both, List.append_assoc, hc (d.write b ++ rest), hd rest]

/-- A value that is nothing or an item. -/
def option (c : Codec α) : Codec (Option α) where
  write
    | none => [0xc0]
    | some a => c.write a
  read
    | [] => none
    | marker :: rest =>
        if marker = 0xc0 then some (none, rest)
        else do
          let (a, rest) ← c.read (marker :: rest)
          pure (some a, rest)

theorem option_conveys_none (c : Codec α) : c.option.Conveys none none := by
  intro rest
  rfl

/-- An item that does not look like nothing is conveyed. -/
theorem Conveys.option {a a' : α} (h : c.Conveys a a') {marker : UInt8} {tail : List UInt8}
    (hwrite : c.write a = marker :: tail) (hmarker : marker ≠ 0xc0) :
    c.option.Conveys (some a) (some a') := by
  intro rest
  have hread := h rest
  rw [hwrite] at hread
  have hitem : c.option.write (some a) = marker :: tail := hwrite
  rw [hitem]
  simp only [Codec.option, List.cons_append, if_neg hmarker] at hread ⊢
  simp [hread]

/-- Read `n` items one after another. -/
def readItems (c : Codec α) : Nat → List UInt8 → Option (List α × List UInt8)
  | 0, input => some ([], input)
  | n + 1, input => do
      let (a, rest) ← c.read input
      let (items, rest) ← c.readItems n rest
      pure (a :: items, rest)

/-- A list behind its length. -/
def array (c : Codec α) : Codec (List α) where
  write items := arrayLen.write items.length ++ items.flatMap c.write
  read input := do
    let (len, rest) ← arrayLen.read input
    c.readItems len rest

variable {items : List α}

theorem readItems_flatMap {f : α → α} (h : ∀ a ∈ items, c.Conveys a (f a)) (rest : List UInt8) :
    c.readItems items.length (items.flatMap c.write ++ rest) = some (items.map f, rest) := by
  induction items with
  | nil => rfl
  | cons a items ih =>
      have hhead := h a List.mem_cons_self
      have htail := ih fun b hb => h b (List.mem_cons_of_mem a hb)
      simp [readItems, List.append_assoc, hhead (items.flatMap c.write ++ rest), htail]

/-- A list is conveyed item by item. -/
theorem Conveys.array {f : α → α} (h : ∀ a ∈ items, c.Conveys a (f a))
    (hlen : items.length < 2 ^ 32) : c.array.Conveys items (items.map f) := by
  intro rest
  simp [Codec.array, List.append_assoc, arrayLen.read_write (arrayLen_fits hlen),
    readItems_flatMap h]

/-- The bytes of a list are at least as many as those of its items. -/
theorem length_flatMap_write_ge {size : Nat} (h : ∀ a ∈ items, size ≤ (c.write a).length) :
    size * items.length ≤ (items.flatMap c.write).length := by
  induction items with
  | nil => simp
  | cons a items ih =>
      have hhead := h a List.mem_cons_self
      have htail := ih fun b hb => h b (List.mem_cons_of_mem a hb)
      rw [List.flatMap_cons, List.length_append, List.length_cons, Nat.mul_succ]
      omega

/-- The bytes of a list are at most as many as those of its items and its length. -/
theorem length_array_write_le {size : Nat} (h : ∀ a ∈ items, (c.write a).length ≤ size) :
    (c.array.write items).length ≤ 5 + size * items.length := by
  have hhead : (arrayLen.write items.length).length ≤ 1 + 4 :=
    Header.length_write_le (by decide) items.length
  have hitems : (items.flatMap c.write).length ≤ size * items.length := by
    clear hhead
    induction items with
    | nil => simp
    | cons a items ih =>
        have hfirst := h a List.mem_cons_self
        have hrest := ih fun b hb => h b (List.mem_cons_of_mem a hb)
        rw [List.flatMap_cons, List.length_append, List.length_cons, Nat.mul_succ]
        omega
  rw [array, List.length_append]
  omega

/-- An item takes no more bytes than the list it is in. -/
theorem length_write_le_flatMap (c : Codec α) {a : α} (h : a ∈ items) :
    (c.write a).length ≤ (items.flatMap c.write).length := by
  obtain ⟨before, after, rfl⟩ := List.append_of_mem h
  rw [List.flatMap_append, List.flatMap_cons]
  simp only [List.length_append]
  omega

/-- The fields of a record, behind their number. -/
def record (fields : Nat) (c : Codec α) : Codec α where
  write a := arrayLen.write fields ++ c.write a
  read input := do
    let (len, rest) ← arrayLen.read input
    if len ≠ fields then none else c.read rest

theorem Conveys.record {a a' : α} (h : c.Conveys a a') {fields : Nat} (hfields : fields < 2 ^ 32) :
    (Codec.record fields c).Conveys a a' := by
  intro rest
  simp [Codec.record, List.append_assoc, arrayLen.read_write (arrayLen_fits hfields), h rest]

/-! ## Choices -/

/-- A choice among named variants.  One without content is its name; one with
content is a map with one entry, from the name to the content. -/
def enum (name : α → String) (content : α → Option (List UInt8))
    (unit : String → Option α) (body : String → List UInt8 → Option (α × List UInt8)) :
    Codec α where
  write a :=
    match content a with
    | none => writeStr (name a)
    | some bytes => 0x81 :: (writeStr (name a) ++ bytes)
  read
    | [] => none
    | marker :: rest =>
        if marker = 0x81 then do
          let (variant, rest) ← readStr rest
          body variant rest
        else do
          let (variant, rest) ← readStr (marker :: rest)
          let a ← unit variant
          pure (a, rest)

section Enum

variable {name : α → String} {content : α → Option (List UInt8)} {unit : String → Option α}
  {body : String → List UInt8 → Option (α × List UInt8)} {a a' : α}

/-- A variant without content is conveyed by its name. -/
theorem enum_conveys_unit (variant : String) (hname : name a = variant)
    (hvariant : (utf8 variant).length < 2 ^ 32) (hcontent : content a = none)
    (hunit : unit variant = some a') : (enum name content unit body).Conveys a a' := by
  intro rest
  obtain ⟨marker, tail, hwrite, hmarker⟩ := writeStr_eq_cons hvariant
  have hread := readStr_writeStr hvariant rest
  rw [hwrite, List.cons_append] at hread
  simp only [enum, hcontent, hname, hwrite, List.cons_append, if_neg hmarker]
  simp [hread, hunit]

/-- A variant with content is conveyed as its content is. -/
theorem enum_conveys_content (variant : String) (hname : name a = variant)
    (hvariant : (utf8 variant).length < 2 ^ 32) {bytes : List UInt8}
    (hcontent : content a = some bytes)
    (hbody : ∀ rest, body variant (bytes ++ rest) = some (a', rest)) :
    (enum name content unit body).Conveys a a' := by
  intro rest
  have hread := readStr_writeStr hvariant (bytes ++ rest)
  simp only [enum, hcontent, hname, List.cons_append, List.append_assoc]
  simp [hread, hbody]

end Enum

end Codec
end MessagePack
