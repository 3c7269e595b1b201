import ThreatTree.Page
import ThreatTree.Proofs.Embed.Svg
import ThreatTree.Proofs.Sequence

/-!
# Pages around pictures

In every theme there is a page (`exists_render`). It is the picture with its document, with text
before it that does not depend on the time, and with text behind it in which no other document
begins (`not_opening_footer`).
-/

namespace ThreatTree

namespace Page

open Text Embed

/-! ### What stands behind the picture -/

/-- No tag begins in a text that is escaped. -/
theorem notMem_escape (s : String) : '<' ∉ (escape s).toList := by
  rw [escape, String.toList_ofList, List.mem_flatMap]
  rintro ⟨d, -, hd⟩
  unfold escapeChar at hd
  split at hd
  · exact absurd hd (by decide)
  split at hd
  · exact absurd hd (by decide)
  split at hd
  · exact absurd hd (by decide)
  split at hd
  · exact absurd hd (by decide)
  split at hd
  · exact absurd hd (by decide)
  · next hne _ _ _ => exact hne (List.mem_singleton.mp hd).symm

/-- The tags that a page ends with. -/
def lastTags : List Char := "</footer>\n</body>\n</html>".toList

/-- What follows the picture, cut where its first line and a tag end. -/
theorem toList_footer (time : String) :
    (footer time).toList = '\n' :: ("  </div>\n  <footer".toList ++
      '>' :: ("Generated ".toList ++ (escape time).toList ++ lastTags)) := by
  have hstart : "\n  </div>\n  <footer>Generated ".toList =
      '\n' :: ("  </div>\n  <footer".toList ++ '>' :: "Generated ".toList) := by decide +kernel
  have hparts (a b d : String) : (a ++ b ++ d).toList = a.toList ++ b.toList ++ d.toList := by simp
  have hassoc (a b c d : List Char) :
      '\n' :: (a ++ '>' :: b) ++ c ++ d = '\n' :: (a ++ '>' :: (b ++ c ++ d)) := by simp
  calc (footer time).toList
      = "\n  </div>\n  <footer>Generated ".toList ++ (escape time).toList ++ lastTags :=
        hparts _ _ _
    _ = '\n' :: ("  </div>\n  <footer".toList ++ '>' :: "Generated ".toList)
          ++ (escape time).toList ++ lastTags :=
        congrArg (· ++ (escape time).toList ++ lastTags) hstart
    _ = _ := hassoc _ _ _ _

theorem not_opening_lastTags : ¬ Svg.opening <:+: lastTags := by
  intro h
  have hparts : lastTags = "</footer".toList ++ '>' :: "\n</body>\n</html>".toList := by
    decide +kernel
  rw [hparts] at h
  rcases infix_separated (by decide) h with h | h
  · exact absurd h.length_le (by decide +kernel)
  · exact absurd h.length_le (by decide +kernel)

/-- Behind the picture no comment begins that did not begin there before. -/
theorem not_opening_footer {before : List Char} (h : ¬ Svg.opening <:+: before ++ ['\n'])
    (time : String) : ¬ Svg.opening <:+: before ++ (footer time).toList := by
  intro hinfix
  rw [toList_footer] at hinfix
  rcases infix_append_concat (by decide) hinfix with hinfix | hinfix
  · exact h hinfix
  rcases infix_separated (by decide) hinfix with hinfix | hinfix
  · exact absurd hinfix.length_le (by decide +kernel)
  · refine not_opening_lastTags (infix_of_head_notMem ?_ hinfix)
    rw [List.mem_append, not_or]
    exact ⟨by decide, notMem_escape time⟩

/-- Different times are shown differently. -/
theorem escape_eq_of_footer {time time' : String} (h : (footer time).toList = (footer time').toList) :
    escape time = escape time' := by
  rw [toList_footer, toList_footer] at h
  have htail := List.append_cancel_left (List.cons.inj h).2
  have hshown := List.append_cancel_right (List.cons.inj htail).2
  exact String.toList_inj.mp (List.append_cancel_left hshown)

/-! ### The page -/

/-- In every theme there is a page: the picture with its document, something before it that does not
depend on the time, and the footer. -/
theorem exists_render {c : Content} {t : Theme} (h : t.name = c.theme) :
    ∃ before, ∀ time, ∃ page, render { c with time := time } = .ok page ∧
      page.toList =
        before ++ Svg.embedChars c.svg.toList c.source.toList ++ (footer time).toList := by
  have hitem (category : Category) : ∃ item, legendItem c.theme category = .ok item := by
    rw [legendItem, ← h, resolveNodeStyle_name]
    exact ⟨_, rfl⟩
  obtain ⟨items, hitems⟩ := exists_mapM_eq_ok_iff.mpr fun category
    (_ : category ∈ Category.all.filter c.categories.contains) => hitem category
  refine ⟨(header c.shownTitle items).toList, fun time =>
    ⟨header c.shownTitle items ++ Svg.embed c.svg c.source ++ footer time, ?_, ?_⟩⟩
  · rw [render, legend, hitems]
    rfl
  · rw [String.toList_append, String.toList_append, Svg.embed, String.toList_ofList]

end Page
end ThreatTree
