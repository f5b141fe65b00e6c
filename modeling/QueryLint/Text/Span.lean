/-!
# Ranges of source text

A `Span` is a half-open range of byte offsets. Offsets count the bytes of the text's UTF-8 form, so
`byteLength` measures characters by `Char.utf8Size`, and `slice` cuts a text at such offsets. Main
statement: `slice_append` cuts out the middle one of three parts by their lengths.
-/

namespace QueryLint

/-- `⟨start, stop⟩` covers the bytes from `start` up to, but not including, `stop`. -/
structure Span where
  /-- The offset of the first byte covered. -/
  start : Nat
  /-- The offset just after the last byte covered. -/
  stop : Nat
  deriving DecidableEq, Repr, Inhabited

/-- The written form of a span is `start..stop`. -/
def Span.render (span : Span) : String :=
  toString span.start ++ ".." ++ toString span.stop

namespace Text

/-- The number of bytes that the characters take in UTF-8. -/
def byteLength : List Char → Nat
  | [] => 0
  | c :: cs => c.utf8Size + byteLength cs

@[simp] theorem byteLength_nil : byteLength [] = 0 := rfl

@[simp] theorem byteLength_cons (c : Char) (cs : List Char) :
    byteLength (c :: cs) = c.utf8Size + byteLength cs := rfl

@[simp] theorem byteLength_append (cs ds : List Char) :
    byteLength (cs ++ ds) = byteLength cs + byteLength ds := by
  induction cs with
  | nil => simp
  | cons c cs ih => simp [ih, Nat.add_assoc]

/-- `dropBytes n cs` leaves out the characters that begin before byte `n`. -/
def dropBytes : Nat → List Char → List Char
  | _, [] => []
  | 0, cs => cs
  | n + 1, c :: cs => dropBytes (n + 1 - c.utf8Size) cs

/-- `takeBytes n cs` keeps the characters that begin before byte `n`. -/
def takeBytes : Nat → List Char → List Char
  | _, [] => []
  | 0, _ => []
  | n + 1, c :: cs => c :: takeBytes (n + 1 - c.utf8Size) cs

/-- The characters of `cs` that lie in `span`. -/
def slice (span : Span) (cs : List Char) : List Char :=
  takeBytes (span.stop - span.start) (dropBytes span.start cs)

/-- What is taken and what is dropped make up the whole text. -/
theorem takeBytes_append_dropBytes (n : Nat) (cs : List Char) :
    takeBytes n cs ++ dropBytes n cs = cs := by
  fun_induction takeBytes n cs with
  | case1 => simp [dropBytes]
  | case2 => simp [dropBytes]
  | case3 n c cs ih => simp [dropBytes, ih]

/-- A text begins after the bytes of what stands before it. -/
theorem dropBytes_byteLength_append (cs ds : List Char) :
    dropBytes (byteLength cs) (cs ++ ds) = ds := by
  induction cs with
  | nil => cases ds <;> rfl
  | cons c cs ih =>
    obtain ⟨n, hn⟩ : ∃ n, byteLength (c :: cs) = n + 1 :=
      ⟨byteLength (c :: cs) - 1, by have := c.utf8Size_pos; simp only [byteLength_cons]; omega⟩
    have hrest : n + 1 - c.utf8Size = byteLength cs := by
      rw [← hn, byteLength_cons]
      omega
    rw [hn, List.cons_append, dropBytes, hrest, ih]

/-- The bytes of a text in front of another are those of the text itself. -/
theorem takeBytes_byteLength_append (cs ds : List Char) :
    takeBytes (byteLength cs) (cs ++ ds) = cs := by
  have h := takeBytes_append_dropBytes (byteLength cs) (cs ++ ds)
  rw [dropBytes_byteLength_append] at h
  exact List.append_cancel_right h

/-- The middle one of three parts is cut out by the range that it takes. -/
theorem slice_append (before cs after : List Char) :
    slice ⟨byteLength before, byteLength before + byteLength cs⟩ (before ++ cs ++ after) = cs := by
  simp only [slice, Nat.add_sub_cancel_left]
  rw [List.append_assoc, dropBytes_byteLength_append, takeBytes_byteLength_append]

end Text

end QueryLint
