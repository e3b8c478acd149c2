/-
# Names of cached files

The file that belongs to a URL is named by the hash of the URL and by its extension, which a
loop of `find` and `erase` leaves of the URL.

* `eraseLoop_eq_some` : the loop ends, with what stands behind the last dot.
* `directory_append` : when a file lies in the directory that its name is appended to.
* `local_file_name_iff` : the URLs whose file name is a single path component.
-/
import Libov.SeparatedWords
import Libov.SessionNodes

open SeparatedWords

namespace Libov

/-! ## The loop behind the extension -/

/-- The loop `while((pos = extension.find(".")) != npos) extension.erase(0, pos + 1)` of
`url2localfilename`, where it ends within `n` tests of its condition. -/
def eraseLoop : ℕ → List Char → Option (List Char)
  | 0, _ => none
  | n + 1, extension =>
      if '.' ∈ extension then
        eraseLoop n (extension.drop (extension.idxOf '.' + 1))
      else some extension

/-- The text that the loop starts with, the URL in front of its first question mark. -/
def urlPath (url : String) : List Char := url.toList.takeWhile (· != '?')

/-- A dot in front of an extension that is not empty. -/
def withDot (extension : List Char) : String :=
  if extension.isEmpty then "" else "." ++ String.ofList extension

/-- The extension in `url2localfilename`, with the loop of the source. -/
def urlExtensionLoop (n : ℕ) (url : String) : Option String :=
  if '.' ∈ urlPath url then (eraseLoop n (urlPath url)).map withDot else some ""

/-- `url2localfilename`, with the loop of the source. -/
def url2localfilenameLoop (hash : String → ℕ) (n : ℕ) (url : String) : Option String :=
  if url.isEmpty then some url
  else (urlExtensionLoop n url).map (toString (hash url) ++ ·)

variable {p q cs : List Char}

/-- Without a dot everything is left. -/
theorem behindLastDot_of_notMem (h : '.' ∉ cs) : behindLastDot cs = cs := by
  cases cs with
  | nil => rfl
  | cons c cs =>
      obtain ⟨hc, hcs⟩ := not_or.mp (mt List.mem_cons.mpr h)
      rw [behindLastDot, if_neg hcs, if_neg (Ne.symm hc)]

/-- What stands in front of a dot does not matter. -/
theorem behindLastDot_append_dot (p q : List Char) :
    behindLastDot (p ++ '.' :: q) = behindLastDot q := by
  induction p with
  | nil =>
      rw [List.nil_append, behindLastDot]
      by_cases hq : '.' ∈ q
      · rw [if_pos hq]
      · rw [if_neg hq, if_pos rfl, behindLastDot_of_notMem hq]
  | cons c p ih =>
      have hmem : '.' ∈ p ++ '.' :: q := by simp
      rw [List.cons_append, behindLastDot, if_pos hmem, ih]

/-- Behind the last dot there is nothing left to erase. -/
theorem behindLastDot_append (hq : '.' ∉ q) : behindLastDot (p ++ '.' :: q) = q := by
  rw [behindLastDot_append_dot, behindLastDot_of_notMem hq]

/-- One round of the loop erases the text up to the first dot. -/
theorem drop_idxOf_dot (hp : '.' ∉ p) :
    (p ++ '.' :: q).drop ((p ++ '.' :: q).idxOf '.' + 1) = q := by
  have hidx : (p ++ '.' :: q).idxOf '.' = p.length := by
    rw [List.idxOf_append_of_notMem hp, List.idxOf_cons_self]
    rfl
  rw [hidx, List.drop_append]
  simp

/-- The loop ends after at most one round for each character, and leaves what stands behind the
last dot. -/
theorem eraseLoop_eq_some {n : ℕ} (h : cs.length < n) :
    eraseLoop n cs = some (behindLastDot cs) := by
  induction n generalizing cs with
  | zero => omega
  | succ n ih =>
      rw [eraseLoop]
      by_cases hdot : '.' ∈ cs
      · obtain ⟨p, q, rfl, hp⟩ := List.eq_append_cons_of_mem hdot
        have hlen : q.length < n := by
          rw [List.length_append, List.length_cons] at h
          omega
        rw [if_pos hdot, drop_idxOf_dot hp, ih hlen, behindLastDot_append_dot]
      · rw [if_neg hdot, behindLastDot_of_notMem hdot]

/-- However long the loop is followed, it does not leave anything else. -/
theorem eraseLoop_eq {n : ℕ} {left : List Char} (h : eraseLoop n cs = some left) :
    left = behindLastDot cs := by
  induction n generalizing cs with
  | zero => cases h
  | succ n ih =>
      rw [eraseLoop] at h
      by_cases hdot : '.' ∈ cs
      · obtain ⟨p, q, rfl, hp⟩ := List.eq_append_cons_of_mem hdot
        rw [if_pos hdot, drop_idxOf_dot hp] at h
        rw [behindLastDot_append_dot]
        exact ih h
      · rw [if_neg hdot] at h
        rw [behindLastDot_of_notMem hdot]
        exact (Option.some.inj h).symm

/-- The extension of the renderer's model, by what the loop starts with and what it leaves. -/
theorem urlExtension_eq (url : String) :
    urlExtension url =
      if '.' ∈ urlPath url then withDot (behindLastDot (urlPath url)) else "" := by
  simp [urlExtension, urlPath, withDot]

/-- The name of the renderer's model is the one that the source computes, after at most one
round of the loop for each character. -/
theorem url2localfilenameLoop_eq_some (hash : String → ℕ) (url : String) :
    url2localfilenameLoop hash ((urlPath url).length + 1) url =
      some (url2localfilename hash url) := by
  have hloop : urlExtensionLoop ((urlPath url).length + 1) url = some (urlExtension url) := by
    rw [urlExtensionLoop, urlExtension_eq, eraseLoop_eq_some (Nat.lt_succ_self _)]
    by_cases hdot : '.' ∈ urlPath url
    · rw [if_pos hdot, if_pos hdot, Option.map_some]
    · rw [if_neg hdot, if_neg hdot]
  rw [url2localfilenameLoop, url2localfilename, hloop]
  by_cases hempty : url.isEmpty
  · rw [if_pos hempty, if_pos hempty]
  · rw [if_neg hempty, if_neg hempty, Option.map_some]

/-- However long the loop is followed, there is no other name. -/
theorem url2localfilenameLoop_eq {hash : String → ℕ} {url name : String} {n : ℕ}
    (h : url2localfilenameLoop hash n url = some name) : name = url2localfilename hash url := by
  have hloop {extension : String} (h : urlExtensionLoop n url = some extension) :
      extension = urlExtension url := by
    rw [urlExtensionLoop] at h
    rw [urlExtension_eq]
    by_cases hdot : '.' ∈ urlPath url
    · rw [if_pos hdot] at h ⊢
      obtain ⟨left, hleft, rfl⟩ := Option.map_eq_some_iff.mp h
      rw [eraseLoop_eq hleft]
    · rw [if_neg hdot] at h ⊢
      exact (Option.some.inj h).symm
  rw [url2localfilenameLoop] at h
  rw [url2localfilename]
  by_cases hempty : url.isEmpty
  · rw [if_pos hempty] at h ⊢
    exact (Option.some.inj h).symm
  · rw [if_neg hempty] at h ⊢
    obtain ⟨extension, hextension, rfl⟩ := Option.map_eq_some_iff.mp h
    rw [hloop hextension]

/-! ## The directory of a file -/

/-- The part of a path up to its last separator: the directory that the file lies in. -/
def directory (path : List Char) : List Char :=
  (path.reverse.dropWhile (· != '/')).reverse

theorem directory_length_le (path : List Char) : (directory path).length ≤ path.length := by
  have hreverse : path.reverse.length = path.length := List.length_reverse
  rw [directory, List.length_reverse, ← hreverse]
  exact List.length_dropWhile_le _ _

/-- A single component does not change the directory. -/
theorem directory_append_of_notMem (folder : List Char) {name : List Char} (h : '/' ∉ name) :
    directory (folder ++ name) = directory folder := by
  have hall : ∀ c ∈ name.reverse, (c != '/') = true := by
    intro c hc
    have hne : c ≠ '/' := by
      rintro rfl
      exact h (List.mem_reverse.mp hc)
    simpa using hne
  rw [directory, directory, List.reverse_append, List.dropWhile_append_of_pos hall]

/-- A name is a single component exactly where the file lies in the directory that the name is
appended to. -/
theorem directory_append (folder name : List Char) :
    directory (folder ++ name) = directory folder ↔ '/' ∉ name := by
  refine ⟨?_, directory_append_of_notMem folder⟩
  intro h hmem
  obtain ⟨u, w, rfl, hw⟩ := exists_append_sep hmem
  -- the last separator of the name ends a longer directory
  have hlonger : directory (folder ++ (u ++ '/' :: w)) = folder ++ u ++ ['/'] := by
    have hsplit : folder ++ (u ++ '/' :: w) = folder ++ u ++ ['/'] ++ w := by simp
    rw [hsplit, directory_append_of_notMem _ hw, directory]
    simp
  have hlen := directory_length_le folder
  rw [← h, hlonger] at hlen
  simp at hlen

/-! ## Names of a single component -/

/-- A number is written with digits, at least one. -/
theorem slash_notMem_toString (n : ℕ) : '/' ∉ (toString n).toList := by
  intro h
  rw [Nat.toString_eq_repr, Nat.toList_repr] at h
  have hdigit := Nat.isDigit_of_mem_toDigits (by omega) (by omega) h
  exact absurd hdigit (by decide)

theorem toString_ne_empty (n : ℕ) : toString n ≠ "" := by
  intro h
  have hpos : 0 < (Nat.toDigits 10 n).length := Nat.length_toDigits_pos
  rw [← Nat.toList_repr, ← Nat.toString_eq_repr, h] at hpos
  exact absurd hpos (by decide)

theorem url2localfilename_of_ne {hash : String → ℕ} {url : String} (hurl : url ≠ "") :
    url2localfilename hash url = toString (hash url) ++ urlExtension url := by
  rw [url2localfilename, if_neg]
  simpa using hurl

theorem slash_mem_withDot {extension : List Char} :
    '/' ∈ (withDot extension).toList ↔ '/' ∈ extension := by
  rw [withDot]
  by_cases hempty : extension.isEmpty
  · rw [if_pos hempty, List.isEmpty_iff.mp hempty]
    simp
  · rw [if_neg hempty]
    simp

/-- The separators of the extension are those behind the last dot. -/
theorem slash_mem_urlExtension {url : String} :
    '/' ∈ (urlExtension url).toList ↔
      ∃ p q, urlPath url = p ++ '.' :: q ∧ '.' ∉ q ∧ '/' ∈ q := by
  rw [urlExtension_eq]
  by_cases hdot : '.' ∈ urlPath url
  · rw [if_pos hdot, slash_mem_withDot]
    obtain ⟨p, q, hpath, hq⟩ := exists_append_sep hdot
    rw [hpath, behindLastDot_append hq]
    constructor
    · intro hslash
      exact ⟨p, q, rfl, hq, hslash⟩
    · rintro ⟨p', q', heq, hq', hslash⟩
      rw [(eq_of_append_sep hq hq' heq).2]
      exact hslash
  · rw [if_neg hdot]
    constructor
    · intro h
      simp at h
    · rintro ⟨p, q, hpath, -⟩
      rw [hpath] at hdot
      simp at hdot

/-- The loop ends with a name that is a single path component, and the file then lies directly in
the folder that the name is appended to, unless a separator stands behind the last dot in front
of the query: the end of the host name with the path, or of the path with the fragment, then is
taken for an extension. -/
theorem local_file_name_iff (hash : String → ℕ) (url : String) (hurl : url ≠ "") :
    (∃ n name, url2localfilenameLoop hash n url = some name ∧ name ≠ "" ∧
        '/' ∉ name.toList ∧
        ∀ folder : String, directory (folder ++ name).toList = directory folder.toList) ↔
      ¬ ∃ p q, urlPath url = p ++ '.' :: q ∧ '.' ∉ q ∧ '/' ∈ q := by
  have hslash : '/' ∈ (url2localfilename hash url).toList ↔
      ∃ p q, urlPath url = p ++ '.' :: q ∧ '.' ∉ q ∧ '/' ∈ q := by
    rw [url2localfilename_of_ne hurl, String.toList_append, List.mem_append,
      slash_mem_urlExtension]
    exact or_iff_right (slash_notMem_toString (hash url))
  rw [← hslash]
  constructor
  · rintro ⟨n, name, hname, -, hsingle, -⟩
    rw [← url2localfilenameLoop_eq hname]
    exact hsingle
  · intro hsingle
    refine ⟨_, _, url2localfilenameLoop_eq_some hash url, ?_, hsingle, ?_⟩
    · rw [url2localfilename_of_ne hurl]
      intro h
      exact toString_ne_empty _ (String.append_eq_empty_iff.mp h).1
    · intro folder
      rw [String.toList_append]
      exact (directory_append _ _).mpr hsingle

/-- The name of a sound file keeps its extension. -/
theorem local_file_name_rain :
    ∃ n name, url2localfilenameLoop (fun _ => 9299990246430846402) n
        "http://host.org/rain.wav" = some name ∧ name ≠ "" ∧ '/' ∉ name.toList ∧
        ∀ folder : String, directory (folder ++ name).toList = directory folder.toList := by
  have hwav : urlExtension "http://host.org/rain.wav" = ".wav" := by decide
  rw [local_file_name_iff _ _ (by decide), ← slash_mem_urlExtension, hwav]
  decide

/-- Without an extension the name of the host gives one, and the file is looked for in a folder
that nobody has made. -/
theorem local_file_name_folder :
    url2localfilenameLoop (fun _ => 9480248552954516914) 3 "http://host.org/sounds" =
        some "9480248552954516914.org/sounds" ∧
      ¬ ∃ n name, url2localfilenameLoop (fun _ => 9480248552954516914) n
          "http://host.org/sounds" = some name ∧ name ≠ "" ∧ '/' ∉ name.toList := by
  have hname : url2localfilename (fun _ => 9480248552954516914) "http://host.org/sounds" =
      "9480248552954516914.org/sounds" := by decide
  constructor
  · decide
  · rintro ⟨n, name, hsome, -, hsingle⟩
    rw [url2localfilenameLoop_eq hsome, hname] at hsingle
    exact hsingle (by decide)

end Libov
