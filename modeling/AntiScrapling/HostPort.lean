import AntiScrapling.SeparatedText

/-! Network addresses of the form `host:port`. -/
namespace AntiScrapling
namespace HostPort

open SeparatedText

def lastIndexOf (c : Char) (cs : List Char) : Option ℕ :=
  (cs.reverse.findIdx? (· = c)).map fun i => cs.length-1-i

/-- Split `host:port`, `[host]:port` or `[host%zone]:port` into host and port. -/
def splitHostPort (hostport : String) : Option (String × String) := do
  let cs := hostport.toList
  let i ← lastIndexOf ':' cs
  let (host,j,k) ←
    if cs.head? = some '[' then do
      let stop ← cs.findIdx? (· = ']')
      if stop+1 = i then some ((cs.take stop).drop 1,1,stop+1) else none
    else
      let host := cs.take i
      if ':' ∈ host then none else some (host,0,0)
  if '[' ∈ cs.drop j then none
  else if ']' ∈ cs.drop k then none
  else some (String.ofList host,String.ofList (cs.drop (i+1)))

/-- The host of an address, or the whole address if it does not split. -/
def hostOf (addr : String) : String :=
  match splitHostPort addr with
  | some (host,_) => host
  | none => addr

/-- Host and port as one address; a host with a colon is put in brackets. -/
def joinHostPort (host port : String) : String :=
  if ':' ∈ host.toList then "[" ++ host ++ "]:" ++ port else host ++ ":" ++ port

section Join

def Plain (host : String) : Prop := '[' ∉ host.toList ∧ ']' ∉ host.toList

theorem bracket_ne_host {host : String} {as bs : List Char} (hhost : Plain host) :
    '['::as ≠ host.toList++ ':'::bs := by
  intro h
  cases hcs : host.toList with
  | nil =>
    rw [hcs] at h
    exact absurd (List.cons.inj h).1 (by decide)
  | cons c cs =>
    rw [hcs] at h
    apply hhost.1
    rw [hcs,(List.cons.inj h).1]
    exact List.mem_cons_self

/-- An address is read back in front of any text, up to its port. -/
theorem joinHostPort_append_inj {host host' port port' : String} {rest rest' : List Char}
    (hhost : Plain host) (hhost' : Plain host')
    (h : (joinHostPort host port).toList++rest = (joinHostPort host' port').toList++rest') :
    host = host' ∧ port.toList++rest = port'.toList++rest' := by
  unfold joinHostPort at h
  split_ifs at h with hcolon hcolon' hcolon'
  · simp only [String.toList_append] at h
    have hcut : host.toList++ ']'::(':'::(port.toList++rest)) =
        host'.toList++ ']'::(':'::(port'.toList++rest')) := by simpa using h
    obtain ⟨heq,hrest⟩ := append_cons_cancel hhost.2 hhost'.2 hcut
    exact ⟨String.toList_inj.mp heq,(List.cons.inj hrest).2⟩
  · have hbracket : '['::(host.toList++ ']':: ':'::(port.toList++rest)) =
        host'.toList++ ':'::(port'.toList++rest') := by simpa using h
    exact absurd hbracket (bracket_ne_host hhost')
  · have hbracket : '['::(host'.toList++ ']':: ':'::(port'.toList++rest')) =
        host.toList++ ':'::(port.toList++rest) := by simpa using h.symm
    exact absurd hbracket (bracket_ne_host hhost)
  · have hcut : host.toList++ ':'::(port.toList++rest) = host'.toList++ ':'::(port'.toList++rest') := by
      simpa using h
    obtain ⟨heq,hrest⟩ := append_cons_cancel hcolon hcolon' hcut
    exact ⟨String.toList_inj.mp heq,hrest⟩

def PlainPort (port : String) : Prop := ':' ∉ port.toList ∧ Plain port

theorem lastIndexOf_append {c : Char} {xs ys : List Char} (h : c ∉ ys) :
    lastIndexOf c (xs++c::ys) = some xs.length := by
  have hfind : (xs++c::ys).reverse.findIdx? (· = c) = some ys.length := by
    rw [List.reverse_append,List.reverse_cons,List.append_assoc,List.findIdx?_append]
    have hnone : ys.reverse.findIdx? (· = c) = none := by
      rw [List.findIdx?_eq_none_iff]
      intro x hx
      have hxc : x ≠ c := fun heq => h (heq ▸ List.mem_reverse.mp hx)
      simpa using hxc
    rw [hnone]
    simp [List.findIdx?_cons]
  rw [lastIndexOf,hfind,Option.map_some,List.length_append,List.length_cons]
  congr 1
  omega

theorem splitHostPort_join {host port : String} (hhost : Plain host) (hport : PlainPort port) :
    splitHostPort (joinHostPort host port) = some (host,port) := by
  obtain ⟨hcolon,hopen,hclose⟩ := hport
  unfold joinHostPort
  split_ifs with h6
  · have hcs : ("[" ++ host ++ "]:" ++ port).toList = ('['::host.toList++[']'])++ ':'::port.toList := by simp
    have hlast : lastIndexOf ':' (('['::host.toList++[']'])++ ':'::port.toList) =
        some (host.toList.length+2) := by
      rw [lastIndexOf_append hcolon]
      simp
    have hstop : (('['::host.toList++[']'])++ ':'::port.toList).findIdx? (· = ']') =
        some (host.toList.length+1) := by
      have hnone : ('['::host.toList).findIdx? (· = ']') = none := by
        rw [List.findIdx?_eq_none_iff]
        intro x hx
        rcases List.mem_cons.mp hx with rfl | hx
        · decide
        · have hne : x ≠ ']' := fun heq => hhost.2 (heq ▸ hx)
          simpa using hne
      rw [List.append_assoc,List.findIdx?_append,hnone]
      simp [List.findIdx?_cons]
    unfold splitHostPort
    simp only [hcs,hlast,hstop,Option.bind_eq_bind,Option.bind_some]
    simp [hhost.1,hopen,hclose]
  · have hcs : (host ++ ":" ++ port).toList = host.toList++ ':'::port.toList := by simp
    have hhead : (host.toList++ ':'::port.toList).head? ≠ some '[' := by
      intro h
      obtain ⟨cs,hcs⟩ := List.head?_eq_some_iff.mp h
      exact bracket_ne_host hhost hcs.symm
    unfold splitHostPort
    simp only [hcs,lastIndexOf_append hcolon,Option.bind_eq_bind,Option.bind_some,hhead,if_false]
    simp [h6,hhost.1,hhost.2,hopen,hclose]

theorem hostOf_join {host port : String} (hhost : Plain host) (hport : PlainPort port) :
    hostOf (joinHostPort host port) = host := by
  rw [hostOf,splitHostPort_join hhost hport]

theorem splitHostPort_host {hostport host port : String} (h : splitHostPort hostport = some (host,port)) :
    host.toList ⊆ hostport.toList := by
  have hread {cs : List Char} (hcs : cs ⊆ hostport.toList) {j k i : ℕ}
      (h : (if '[' ∈ hostport.toList.drop j then none
        else if ']' ∈ hostport.toList.drop k then none
        else some (String.ofList cs,String.ofList (hostport.toList.drop (i+1)))) = some (host,port)) :
      host.toList ⊆ hostport.toList := by
    split_ifs at h
    cases h
    rwa [String.toList_ofList]
  unfold splitHostPort at h
  obtain ⟨i,-,h⟩ := Option.bind_eq_some_iff.mp h
  split_ifs at h
  · obtain ⟨stop,-,h⟩ := Option.bind_eq_some_iff.mp h
    split_ifs at h
    · exact hread (fun c hc => List.mem_of_mem_take (List.mem_of_mem_drop hc)) h
    · cases h
  · simp only at h
    split_ifs at h
    · cases h
    · exact hread (fun c hc => List.mem_of_mem_take hc) h

/-- The host of an address has no other characters than the address. -/
theorem hostOf_subset (addr : String) : (hostOf addr).toList ⊆ addr.toList := by
  unfold hostOf
  split
  · rename_i host port h
    exact splitHostPort_host h
  · exact List.Subset.refl _

end Join

end HostPort
end AntiScrapling
