import CyberiaVpn.Codec.Utf8

/-!
# Paths

`PathBuf` of the standard library, on Unix: bytes that need not be UTF-8.
A path read from a configuration file is text, and so is every path
written out here; a path made any other way can hold any bytes.
-/

namespace CyberiaVpn.Linux

open Codec

structure PathBuf where
  bytes : List UInt8
  deriving DecidableEq

namespace PathBuf

def ofString (text : String) : PathBuf := ⟨text.toList.flatMap String.utf8EncodeChar⟩

instance : Coe String PathBuf := ⟨ofString⟩

/-- A separator at the start. -/
def isAbsolute (path : PathBuf) : Bool := path.bytes.head? == some 0x2f

def toStr (path : PathBuf) : Option String := String.fromUTF8? path.bytes.toByteArray

/-- `to_string_lossy`: a replacement character stands for what is not
UTF-8. -/
def toStringLossy (path : PathBuf) : String :=
  String.ofList ((readUtf8 none path.bytes).map (·.getD '\uFFFD'))

theorem toByteArray_ofString (text : String) :
    (ofString text).bytes.toByteArray = text.toByteArray := by
  conv => rhs; rw [← String.ofList_toList (s := text), String.toByteArray_ofList]
  rfl

@[simp]
theorem toStr_ofString (text : String) : (ofString text).toStr = some text := by
  unfold toStr String.fromUTF8?
  rw [toByteArray_ofString, dif_pos text.isValidUTF8]
  rfl

theorem toStringLossy_ofString (text : String) : (ofString text).toStringLossy = text := by
  have hread : (text.toList.map some).map (·.getD '\uFFFD') = text.toList := by
    rw [List.map_map]
    exact List.map_id _
  unfold toStringLossy ofString
  rw [readUtf8_flatMap, hread, String.ofList_toList]

/-- A path that is text has no other bytes than the text's. -/
theorem eq_ofString {path : PathBuf} {text : String} (h : path.toStr = some text) :
    path = ofString text := by
  have hbytes : text.toByteArray = path.bytes.toByteArray := by
    unfold toStr String.fromUTF8? at h
    split at h
    · cases h
      rfl
    · cases h
  rw [← toByteArray_ofString, List.toByteArray_inj] at hbytes
  exact congrArg PathBuf.mk hbytes.symm

/-- So `to_string_lossy` still names the same file. -/
theorem ofString_toStringLossy {path : PathBuf} (h : path.toStr ≠ none) :
    ofString path.toStringLossy = path := by
  obtain ⟨text, htext⟩ := Option.ne_none_iff_exists'.mp h
  rw [eq_ofString htext, toStringLossy_ofString]

example : (⟨[0x2f, 0xff]⟩ : PathBuf).toStr = none := by decide +kernel

end PathBuf

end CyberiaVpn.Linux
