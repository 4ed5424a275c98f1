import MediaNegotiation.Text.Case
import MediaNegotiation.Url.Percent

/-!
# Paths

A path is a sequence of segments, which is resolved while it is read: a segment of one dot stands
for its own directory and a segment of two dots for the parent directory. A path that does not
begin with a slash and has no authority in front of it is kept as it stands. The rules are those of
the package `url`.

Results:
* `isDot_of_mem_resolve`: no segment of a resolved path is a dot segment.
-/

namespace MediaNegotiation.Url

/-- A path as it is written, percent encodings included. -/
inductive Path
  | opaqueText (text : List Char)
  | segments (list : List (List Char))
  deriving DecidableEq, Repr

/-- The written form of a path. -/
def Path.toText : Path → List Char
  | .opaqueText text => text
  | .segments list => list.flatMap ('/' :: ·)

/-! ## Dot segments -/

/-- The segment that stands for its own directory. -/
def isSingleDot (s : List Char) : Bool :=
  [".".toList, "%2e".toList].contains (Text.asciiLower s)

/-- The segment that stands for the parent directory. -/
def isDoubleDot (s : List Char) : Bool :=
  ["..".toList, ".%2e".toList, "%2e.".toList, "%2e%2e".toList].contains (Text.asciiLower s)

/-- Whether a segment stands for a directory. -/
def isDot (s : List Char) : Bool := isSingleDot s || isDoubleDot s

/-! ## Drives -/

/-- A letter with a colon or a bar: the name of a drive. -/
def isDrive : List Char → Bool
  | [letter, mark] => letter.isAlpha && (mark == ':' || mark == '|')
  | _ => false

/-- Whether a segment begins with the name of a drive, up to its end or a backslash. -/
def startsWithDrive : List Char → Bool
  | [letter, mark] | letter :: mark :: '\\' :: _ => isDrive [letter, mark]
  | _ => false

/-- The name of a drive with a colon. -/
def writeDrive (s : List Char) : List Char := s.take 1 ++ [':']

/-! ## Resolution -/

/-- Leaves the last of the segments kept, which are given in reverse. A drive is not left. -/
def leave : List (List Char) → List (List Char)
  | [] => []
  | last :: kept => if startsWithDrive last then last :: kept else kept

/-- Enters a segment. At the front of the path of a file a drive is written with a colon. -/
def enter (isFile : Bool) (kept : List (List Char)) (segment : List Char) : List (List Char) :=
  if isFile && kept.isEmpty && isDrive segment then [writeDrive segment] else segment :: kept

/-- Resolves dot segments against the segments already kept, which are given in reverse. A dot
segment at the end leaves a trailing slash. -/
def resolve (isFile : Bool) (kept : List (List Char)) : List (List Char) → List (List Char)
  | [] => kept.reverse
  | [last] =>
    if isDoubleDot last then ([] :: leave kept).reverse
    else if isSingleDot last then ([] :: kept).reverse
    else (enter isFile kept last).reverse
  | segment :: rest =>
    if isDoubleDot segment then resolve isFile (leave kept) rest
    else if isSingleDot segment then resolve isFile kept rest
    else resolve isFile (enter isFile kept segment) rest

/-- The resolved segments of the text behind the first slash, between `marks`. -/
def readSegments (isFile : Bool) (marks s : List Char) : List (List Char) :=
  resolve isFile [] ((s.splitOnP marks.contains).map (encode pathReserved))

/-- Leaves out the empty segments at the front. -/
def dropEmpty (segments : List (List Char)) : List (List Char) :=
  match segments.dropWhile List.isEmpty with
  | [] => [[]]
  | segments => segments

theorem isDot_nil : isDot [] = false := by decide

theorem isDot_writeDrive (s : List Char) : isDot (writeDrive s) = false := by
  cases s with
  | nil => decide
  | cons c rest =>
    have hc : ':'.toLower = ':' := by decide
    simp [isDot, isSingleDot, isDoubleDot, writeDrive, Text.asciiLower, hc]

theorem mem_leave {kept : List (List Char)} {s : List Char} (h : s ∈ leave kept) : s ∈ kept := by
  cases kept with
  | nil => exact h
  | cons last kept =>
    simp only [leave] at h
    split at h
    · exact h
    · exact List.mem_cons_of_mem _ h

theorem mem_enter {isFile : Bool} {kept : List (List Char)} {segment s : List Char}
    (hn : isDot segment = false) (hk : ∀ s ∈ kept, isDot s = false)
    (h : s ∈ enter isFile kept segment) : isDot s = false := by
  unfold enter at h
  split at h
  · rw [List.mem_singleton.1 h]
    exact isDot_writeDrive segment
  · rcases List.mem_cons.1 h with rfl | h
    · exact hn
    · exact hk s h

/-- No segment of a resolved path is a dot segment. -/
theorem isDot_of_mem_resolve {isFile : Bool} {kept segments : List (List Char)} {s : List Char}
    (hk : ∀ s ∈ kept, isDot s = false) (h : s ∈ resolve isFile kept segments) :
    isDot s = false := by
  have hend : ∀ {list : List (List Char)}, (∀ s ∈ list, isDot s = false) →
      s ∈ ([] :: list).reverse → isDot s = false := fun hl hs => by
    rcases List.mem_cons.1 (List.mem_reverse.1 hs) with rfl | hs
    · exact isDot_nil
    · exact hl s hs
  induction segments generalizing kept with
  | nil => exact hk s (List.mem_reverse.1 h)
  | cons segment rest ih =>
    have hl : ∀ s ∈ leave kept, isDot s = false := fun s hs => hk s (mem_leave hs)
    have he (h₁ : ¬isDoubleDot segment = true) (h₂ : ¬isSingleDot segment = true) :
        ∀ s ∈ enter isFile kept segment, isDot s = false :=
      fun s hs => mem_enter (by simp_all [isDot]) hk hs
    cases rest with
    | nil =>
      unfold resolve at h
      split at h
      · exact hend hl h
      · split at h
        · exact hend hk h
        · rename_i h₁ h₂
          exact he h₁ h₂ s (List.mem_reverse.1 h)
    | cons next rest =>
      unfold resolve at h
      split at h
      · exact ih hl h
      · split at h
        · exact ih hk h
        · rename_i h₁ h₂
          exact ih (he h₁ h₂) h

end MediaNegotiation.Url
