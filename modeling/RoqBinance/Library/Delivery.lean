import Mathlib.Data.List.Nodup
import Mathlib.Data.List.Perm.Basic
import Mathlib.Data.Nat.Notation

/-! Numbered parcels: each that has been carried is on its way, delivered or lost. -/
namespace RoqBinance.Library

/-- The numbers below `next` have been given out, and those that are `carried` are found once in
one of three places. -/
structure Accounted (next : ℕ) (carried pending delivered lost : List ℕ) : Prop where
  fresh : ∀ n ∈ carried, n < next
  nodup : carried.Nodup
  perm : (pending ++ delivered ++ lost).Perm carried

namespace Accounted
variable {next : ℕ} {carried pending delivered lost : List ℕ}

theorem nil : Accounted 0 [] [] [] [] := ⟨nofun,List.nodup_nil,List.Perm.refl []⟩

/-- A number is given out to something that is not followed. -/
theorem skip (h : Accounted next carried pending delivered lost) :
    Accounted (next+1) carried pending delivered lost :=
  ⟨fun n hn => Nat.lt_succ_of_lt (h.fresh n hn),h.nodup,h.perm⟩

theorem carry (h : Accounted next carried pending delivered lost) :
    Accounted (next+1) (carried ++ [next]) (pending ++ [next]) delivered lost := by
  refine ⟨?_,?_,?_⟩
  · intro n hn
    rcases List.mem_append.mp hn with hn | hn
    · exact Nat.lt_succ_of_lt (h.fresh n hn)
    · rw [List.mem_singleton.mp hn]
      exact Nat.lt_succ_self next
  · refine List.nodup_append.mpr ⟨h.nodup,List.nodup_singleton next,?_⟩
    intro n hn m hm hnm
    have hlt := h.fresh n hn
    rw [hnm,List.mem_singleton.mp hm] at hlt
    exact Nat.lt_irrefl next hlt
  · have hlast : (pending ++ [next] ++ delivered ++ lost).Perm
        (pending ++ delivered ++ lost ++ [next]) := by
      rw [List.append_assoc,List.append_assoc,List.append_assoc pending,List.append_assoc pending]
      exact List.perm_append_comm.append_left pending
    exact hlast.trans (h.perm.append_right [next])

theorem deliver {n : ℕ} {rest : List ℕ} (h : Accounted next carried pending delivered lost)
    (hp : pending.Perm (n::rest)) : Accounted next carried rest (delivered ++ [n]) lost := by
  refine ⟨h.fresh,h.nodup,List.Perm.trans ?_ h.perm⟩
  refine List.Perm.append_right lost ?_
  have hlast : (rest ++ (delivered ++ [n])).Perm (n::rest ++ delivered) := by
    rw [← List.append_assoc]
    exact List.perm_append_singleton n (rest ++ delivered)
  exact hlast.trans (hp.symm.append_right delivered)

theorem lose {gone rest : List ℕ} (h : Accounted next carried pending delivered lost)
    (hp : pending.Perm (gone ++ rest)) : Accounted next carried rest delivered (lost ++ gone) := by
  refine ⟨h.fresh,h.nodup,List.Perm.trans ?_ h.perm⟩
  have hfirst : (rest ++ delivered ++ (lost ++ gone)).Perm (gone ++ rest ++ delivered ++ lost) := by
    rw [← List.append_assoc]
    refine List.perm_append_comm.trans ?_
    rw [← List.append_assoc,← List.append_assoc]
  exact hfirst.trans ((hp.symm.append_right delivered).append_right lost)

/-- Nothing is delivered twice. -/
theorem nodup_delivered (h : Accounted next carried pending delivered lost) : delivered.Nodup := by
  have hnodup := h.perm.nodup_iff.mpr h.nodup
  exact (List.nodup_append.mp (List.nodup_append.mp hnodup).1).2.1

end Accounted
end RoqBinance.Library
