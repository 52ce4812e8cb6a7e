import CrudForge.Json.Decode

/-!
Pages of a listing. A window is the number and the size of a page, and cuts the page out of a list.
Numbers and sizes are words of 64 bits, and the offset of a page that lies beyond them is the
greatest word; no list is long enough to tell the difference.
-/

namespace CrudForge

/-- The size of the window that shows everything. -/
def maxPageSize : UInt64 := 2147483647

/-- The number of a page, counted from zero, and the size of the pages. -/
structure PageWindow where
  page : UInt64
  size : UInt64
  deriving DecidableEq, Repr

namespace PageWindow

/-- The first page, large enough for everything. -/
def unrestricted : PageWindow := ⟨0, maxPageSize⟩

/-- Whether a window shows everything. -/
def isUnrestricted (w : PageWindow) : Bool :=
  w = unrestricted

/-- The position of the first element of the page. -/
def offset (w : PageWindow) : UInt64 :=
  (min (w.page.toNat * w.size.toNat) (Nat.pow 2 64 - 1)).toUInt64

/-- The window of a number and a size, if both are given. -/
def ofOptions : Option UInt64 → Option UInt64 → PageWindow
  | some page, some size => ⟨page, size⟩
  | _, _ => unrestricted

end PageWindow

/-- A page with what it is a part of. -/
structure Page (α : Type) where
  content : List α
  page : UInt64
  size : UInt64
  totalElements : UInt64
  totalPages : UInt64
  deriving DecidableEq, Repr

namespace Page

/-- The number of pages that hold some elements, the last of which need not be full. -/
def count (total size : UInt64) : UInt64 :=
  if size = 0 then 0 else ((total.toNat + (size.toNat - 1)) / size.toNat).toUInt64

/-- The page of a window with a content and the number of all elements. -/
def ofContent (content : List α) (w : PageWindow) (total : UInt64) : Page α where
  content := content
  page := w.page
  size := w.size
  totalElements := total
  totalPages := count total w.size

/-- The page that a window cuts out of a list. -/
def slice (all : List α) (w : PageWindow) : Page α :=
  ofContent ((all.drop w.offset.toNat).take w.size.toNat) w all.length.toUInt64

end Page

/-! ## JSON -/

open Json

/-- A word as JSON. -/
def Json.word (w : UInt64) : Json := .nat w.toNat

/-- A window as JSON. -/
def PageWindow.toJson (w : PageWindow) : Json :=
  .obj [("page", .word w.page), ("size", .word w.size)]

/-- The window of a JSON value. -/
def PageWindow.ofJson? (j : Json) : Option PageWindow := do
  let [page, size] ← asRecord? ["page", "size"] j | none
  let page ← required? asWord? page
  let size ← required? asWord? size
  return { page, size }

/-- A page as JSON. -/
def Page.toJson (encode : α → Json) (p : Page α) : Json :=
  .obj [("content", .arr (p.content.map encode)), ("page", .word p.page), ("size", .word p.size),
    ("total_elements", .word p.totalElements), ("total_pages", .word p.totalPages)]

/-- The page of a JSON value. -/
def Page.ofJson? (decode : Json → Option α) (j : Json) : Option (Page α) := do
  let [content, page, size, totalElements, totalPages] ←
    asRecord? ["content", "page", "size", "total_elements", "total_pages"] j | none
  let content ← required? (asList? decode) content
  let page ← required? asWord? page
  let size ← required? asWord? size
  let totalElements ← required? asWord? totalElements
  let totalPages ← required? asWord? totalPages
  return { content, page, size, totalElements, totalPages }

end CrudForge
