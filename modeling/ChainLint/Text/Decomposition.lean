import ChainLint.Text.RangeTable
/-!
# Decompositions of characters

For the characters of identifiers: their full compatibility decompositions,
the pairs that compose, and the combining classes, all by Unicode 14. Hangul
syllables follow a rule and are not listed.
-/

namespace ChainLint.Text

/-- The numbers of a table written as lines in base 36. -/
def tableNumbers (lines : List String) : List Nat :=
  lines.flatMap fun line => RangeTable.numbers line.toList

/-- Characters in a row with the sequences that they decompose to; of several characters in a row
each decomposes to a single one, those in a row as well. -/
structure DecompositionRun where
  first : Nat
  more : Nat
  parts : List Nat

/-- Reads runs: the gap since the last character, then either a zero, how many characters are more
than one, and the first part; or how many parts there are, and the parts. -/
def decompositionRuns : Nat → Nat → List Nat → List DecompositionRun
  | fuel + 1, last, gap :: 0 :: more :: part :: rest =>
    ⟨last + gap, more, [part]⟩ :: decompositionRuns fuel (last + gap + more) rest
  | fuel + 1, last, gap :: count :: rest =>
    ⟨last + gap, 0, rest.take count⟩ :: decompositionRuns fuel (last + gap) (rest.drop count)
  | _, _, _ => []

/-- The lines of the decompositions. -/
def decompositionLines : List String := [
  "4q 1 2p b 1 qk 5 1 33 6 2 1t lc 1 2 1t ld 1 2 1t le 1 2 1t lf 1 2 1t lk 1 2 1t lm 2 2 1v mf 1",
  "2 1x lc 1 2 1x ld 1 2 1x le 1 2 1x lk 1 2 21 lc 1 2 21 ld 1 2 21 le 1 2 21 lk 2 2 26 lf 1 2",
  "27 lc 1 2 27 ld 1 2 27 le 1 2 27 lf 1 2 27 lk 3 2 2d lc 1 2 2d ld 1 2 2d le 1 2 2d lk 1 2 2h",
  "ld 3 2 2p lc 1 2 2p ld 1 2 2p le 1 2 2p lf 1 2 2p lk 1 2 2p lm 2 2 2r mf 1 2 2t lc 1 2 2t ld",
  "1 2 2t le 1 2 2t lk 1 2 2x lc 1 2 2x ld 1 2 2x le 1 2 2x lk 2 2 32 lf 1 2 33 lc 1 2 33 ld 1 2",
  "33 le 1 2 33 lf 1 2 33 lk 3 2 39 lc 1 2 39 ld 1 2 39 le 1 2 39 lk 1 2 3d ld 2 2 3d lk 1 2 1t",
  "lg 1 2 2p lg 1 2 1t li 1 2 2p li 1 2 1t mg 1 2 2p mg 1 2 1v ld 1 2 2r ld 1 2 1v le 1 2 2r le",
  "1 2 1v lj 1 2 2r lj 1 2 1v lo 1 2 2r lo 1 2 1w lo 1 2 2s lo 3 2 1x lg 1 2 2t lg 1 2 1x li 1 2",
  "2t li 1 2 1x lj 1 2 2t lj 1 2 1x mg 1 2 2t mg 1 2 1x lo 1 2 2t lo 1 2 1z le 1 2 2v le 1 2 1z",
  "li 1 2 2v li 1 2 1z lj 1 2 2v lj 1 2 1z mf 1 2 2v mf 1 2 20 le 1 2 2w le 3 2 21 lf 1 2 2x lf",
  "1 2 21 lg 1 2 2x lg 1 2 21 li 1 2 2x li 1 2 21 mg 1 2 2x mg 1 2 21 lj 2 2 21 22 1 2 2x 2y 1 2",
  "22 le 1 2 2y le 1 2 23 mf 1 2 2z mf 2 2 24 ld 1 2 30 ld 1 2 24 mf 1 2 30 mf 1 2 24 lo 1 2 30",
  "lo 1 2 24 53 1 2 30 53 3 2 26 ld 1 2 32 ld 1 2 26 mf 1 2 32 mf 1 2 26 lo 1 2 32 lo 1 2 jg 32",
  "3 2 27 lg 1 2 33 lg 1 2 27 li 1 2 33 li 1 2 27 ln 1 2 33 ln 3 2 2a ld 1 2 36 ld 1 2 2a mf 1 2",
  "36 mf 1 2 2a lo 1 2 36 lo 1 2 2b ld 1 2 37 ld 1 2 2b le 1 2 37 le 1 2 2b mf 1 2 37 mf 1 2 2b",
  "lo 1 2 37 lo 1 2 2c mf 1 2 38 mf 1 2 2c lo 1 2 38 lo 3 2 2d lf 1 2 39 lf 1 2 2d lg 1 2 39 lg",
  "1 2 2d li 1 2 39 li 1 2 2d lm 1 2 39 lm 1 2 2d ln 1 2 39 ln 1 2 2d mg 1 2 39 mg 1 2 2f le 1 2",
  "3b le 1 2 2h le 1 2 3d le 1 2 2h lk 1 2 2i ld 1 2 3e ld 1 2 2i lj 1 2 3e lj 1 2 2i lo 1 2 3e",
  "lo 1 1 37 x 2 27 m3 1 2 33 m3 e 2 2d m3 1 2 39 m3 k 3 1w 2i lo 1 3 1w 3e lo 1 3 2s 3e lo 1 2",
  "24 22 1 2 24 2y 1 2 30 2y 1 2 26 22 1 2 26 2y 1 2 32 2y 1 2 1t lo 1 2 2p lo 1 2 21 lo 1 2 2x",
  "lo 1 2 27 lo 1 2 33 lo 1 2 2d lo 1 2 39 lo 1 3 2d lk lg 1 3 39 lk lg 1 3 2d lk ld 1 3 39 lk",
  "ld 1 3 2d lk lo 1 3 39 lk lo 1 3 2d lk lc 1 3 39 lk lc 2 3 1t lk lg 1 3 2p lk lg 1 3 1t lj lg",
  "1 3 2p lj lg 1 2 5i lg 1 2 6e lg 3 2 1z lo 1 2 2v lo 1 2 23 lo 1 2 2z lo 1 2 27 mg 1 2 33 mg",
  "1 3 27 mg lg 1 3 33 mg lg 1 2 c7 lo 1 2 ia lo 1 2 2y lo 1 2 1w 2i 1 2 1w 3e 1 2 2s 3e 1 2 1z",
  "ld 1 2 2v ld 3 2 26 lc 1 2 32 lc 1 3 1t lm ld 1 3 2p lm ld 1 2 5i ld 1 2 6e ld 1 2 60 ld 1 2",
  "6w ld 1 2 1t lr 1 2 2p lr 1 2 1t lt 1 2 2p lt 1 2 1x lr 1 2 2t lr 1 2 1x lt 1 2 2t lt 1 2 21",
  "lr 1 2 2x lr 1 2 21 lt 1 2 2x lt 1 2 27 lr 1 2 33 lr 1 2 27 lt 1 2 33 lt 1 2 2a lr 1 2 36 lr",
  "1 2 2a lt 1 2 36 lt 1 2 2d lr 1 2 39 lr 1 2 2d lt 1 2 39 lt 1 2 2b me 1 2 37 me 1 2 2c me 1 2",
  "38 me 3 2 20 lo 1 2 2w lo 7 2 1t lj 1 2 2p lj 1 2 1x mf 1 2 2t mf 1 3 27 lk lg 1 3 33 lk lg 1",
  "3 27 lf lg 1 3 33 lf lg 1 2 27 lj 1 2 33 lj 1 3 27 lj lg 1 3 33 lj lg 1 2 2h lg 1 2 3d lg 3h",
  "1 2w 1 1 h2 1 1 2y 1 1 36 1 1 hl 1 1 hn 1 1 ht 1 1 3b 1 1 3d 14 1 gz 1 1 30 1 1 37 1 1 3c 1 1",
  "id 2k 0 1 lc 2 1 lv 1 2 lk ld 1c 1 jd i 2 pd ld 1 1 53 1 2 ph ld 1 2 pj ld 1 2 pl ld 2 2 pr",
  "ld 2 2 px ld 1 2 q1 ld 1 3 qh lk ld q 2 pl lk 1 2 px lk 1 2 q9 ld 1 2 qd ld 1 2 qf ld 1 2 qh",
  "ld 1 3 qt lk ld q 2 qh lk 1 2 qt lk 1 2 qn ld 1 2 qt ld 1 2 qx ld 2 1 qa 1 1 qg 1 1 px 1 2 px",
  "ld 1 2 px lk 1 1 qu 1 1 qo q 1 qi 1 0 1 qp 2 1 pk 1 1 qd 4 1 pv 7 2 t1 lc 1 2 t1 lk 2 2 sz ld",
  "4 2 sm lk 5 2 t6 ld 1 2 t4 lc 1 2 tf li b 2 t4 li w 2 u0 li n 2 tx lc 1 2 tx lk 2 2 tv ld 4 2",
  "uu lk 5 2 u2 ld 1 2 u0 lc 1 2 ub li o 2 vo lr 1 2 vp lr 22 2 t2 li 1 2 ty li e 2 sw li 1 2 ts",
  "li 1 2 sw lk 1 2 ts lk 3 2 t1 li 1 2 tx li 3 2 yg lk 1 2 yh lk 1 2 t2 lk 1 2 ty lk 1 2 t3 lk",
  "1 2 tz lk 3 2 t4 lg 1 2 u0 lg 1 2 t4 lk 1 2 u0 lk 1 2 ta lk 1 2 u6 lk 3 2 yw lk 1 2 yx lk 1 2",
  "tp lk 1 2 ul lk 1 2 tf lg 1 2 ub lg 1 2 tf lk 1 2 ub lk 1 2 tf ln 1 2 ub ln 1 2 tj lk 1 2 uf",
  "lk 3 2 tn lk 1 2 uj lk 3y 2 12d 136 4b 2 17r 18z 1 2 17r 190 1 2 18o 190 1 2 17r 191 1 2 18q",
  "190 27 2 17r 19w 1 2 18o 19w 1 2 1c7 19w 1 2 18q 19w 20 2 1cl 190 2 2 1c1 190 h 2 1ci 190 gm",
  "2 1t4 1to 8 2 1tc 1to 3 2 1tf 1to 10 2 1sl 1to 1 2 1sm 1to 1 2 1sn 1to 1 2 1ss 1to 1 2 1sx",
  "1to 1 2 1sy 1to 1 2 1t7 1to 1 2 1tb 1to 30 2 1xj 1xa 1 2 1xj 1xz g 2 1wh 1x8 1 2 1wi 1x8 2 2",
  "1wv 1x8 2c 2 20i 20s 3 2 20o 20s z 2 1zq 20s 1 2 1zr 20s 1 2 1zw 20s 3 2 20b 20s 6i 2 287 28m",
  "3 2 287 27y 1 2 287 28n g 2 275 27w 1 2 276 27w 1j 2 2aa 2c7 1i 2 2bq 2bi 1 2 2br 2bi 1 2 2bq",
  "2c7 3g 2 2fa 2fq 3c 2 2in 2j9 7 2 2iu 2j9 1 2 2iu 2ja 2 2 2iu 2iq 1 3 2iu 2iq 2j9 3j 2 2me",
  "2m6 1 2 2mf 2m6 1 2 2me 2mv 3y 2 2qh 2q2 2 2 2qh 2q7 1 3 2qh 2q7 2q2 1 2 2qh 2qn 2d 2 2tp 2sy",
  "3k 2 2x9 2wi 15 2 2wb 2vt 1 2 2wb 2w1 2u 2 30i 33r a 2 30s 33r 5 2 30x 33r 5 2 312 33r 5 2",
  "317 33r d 2 30g 33p a 2 31t 31u 2 2 31t 31w 1 2 33m 328 1 3 33m 31t 328 1 2 33n 328 1 3 33n",
  "31t 328 8 2 31t 328 i 2 32q 33r a 2 330 33r 5 2 335 33r 5 2 33a 33r 5 2 33f 33r d 2 32o 33p",
  "31 2 36t 372 5y 1 3bw 1ze 2 5c5 5dh 2 2 5c7 5dh 2 2 5c9 5dh 2 2 5cb 5dh 2 2 5cd 5dh 4 2 5ch",
  "5dh 15 2 5dm 5dh 2 2 5do 5dh 3 2 5dq 5dh 1 2 5dr 5dh 2 2 5du 5dh dl 1 1t 1 1 5i 1 1 1u 2 0 1",
  "1w 1 1 b2 1 0 7 1z 2 1 27 1 1 f6 1 1 28 1 1 2a 1 0 1 2c 1 1 2f 1 1 2p 1 0 1 gg 1 1 5qa 1 1 2q",
  "1 0 1 2s 1 1 gp 1 0 1 gr 1 1 2v 2 1 2z 1 1 31 1 1 97 1 1 33 1 1 gk 1 0 1 5qu 1 1 34 1 0 1 38",
  "1 1 5r1 1 1 hb 1 1 3a 1 1 5r9 1 0 2 qa 1 0 1 qu 1 1 2x 1 1 36 1 0 1 39 1 0 1 qa 1 1 qp 1 0 1",
  "qu e 1 u5 z 1 gi 1 1 2r 1 1 gl 1 1 6o 1 1 gs 1 1 2u 1 1 gv 1 1 gx 1 1 h1 1 0 2 h4 1 1 5tn 1 1",
  "il 1 1 h9 1 1 5tx 1 1 in 1 1 hd 1 1 hc 1 0 3 he 1 1 hk 1 0 1 hu 1 1 bv 1 0 1 i1 1 1 5r0 1 0 1",
  "i3 1 1 3e 1 0 2 i8 1 1 qg 1t 2 1t md 1 2 2p md 1 2 1u lj 1 2 2q lj 1 2 1u mb 1 2 2q mb 1 2 1u",
  "mp 1 2 2q mp 1 3 1v mf ld 1 3 2r mf ld 1 2 1w lj 1 2 2s lj 1 2 1w mb 1 2 2s mb 1 2 1w mp 1 2",
  "2s mp 1 2 1w mf 1 2 2s mf 1 2 1w ml 1 2 2s ml 1 3 1x lg lc 1 3 2t lg lc 1 3 1x lg ld 1 3 2t",
  "lg ld 1 2 1x ml 1 2 2t ml 1 2 1x mo 1 2 2t mo 1 3 1x mf li 1 3 2t mf li 1 2 1y lj 1 2 2u lj 1",
  "2 1z lg 1 2 2v lg 1 2 20 lj 1 2 2w lj 1 2 20 mb 1 2 2w mb 1 2 20 lk 1 2 2w lk 1 2 20 mf 1 2",
  "2w mf 1 2 20 mm 1 2 2w mm 1 2 21 mo 1 2 2x mo 1 3 21 lk ld 1 3 2x lk ld 1 2 23 ld 1 2 2z ld 1",
  "2 23 mb 1 2 2z mb 1 2 23 mp 1 2 2z mp 1 2 24 mb 1 2 30 mb 1 3 24 mb lg 1 3 30 mb lg 1 2 24 mp",
  "1 2 30 mp 1 2 24 ml 1 2 30 ml 1 2 25 ld 1 2 31 ld 1 2 25 lj 1 2 31 lj 1 2 25 mb 1 2 31 mb 1 2",
  "26 lj 1 2 32 lj 1 2 26 mb 1 2 32 mb 1 2 26 mp 1 2 32 mp 1 2 26 ml 1 2 32 ml 1 3 27 lf ld 1 3",
  "33 lf ld 1 3 27 lf lk 1 3 33 lf lk 1 3 27 lg lc 1 3 33 lg lc 1 3 27 lg ld 1 3 33 lg ld 1 2 28",
  "ld 1 2 34 ld 1 2 28 lj 1 2 34 lj 1 2 2a lj 1 2 36 lj 1 2 2a mb 1 2 36 mb 1 3 2a mb lg 1 3 36",
  "mb lg 1 2 2a mp 1 2 36 mp 1 2 2b lj 1 2 37 lj 1 2 2b mb 1 2 37 mb 1 3 2b ld lj 1 3 37 ld lj 1",
  "3 2b lo lj 1 3 37 lo lj 1 3 2b mb lj 1 3 37 mb lj 1 2 2c lj 1 2 38 lj 1 2 2c mb 1 2 38 mb 1 2",
  "2c mp 1 2 38 mp 1 2 2c ml 1 2 38 ml 1 2 2d mc 1 2 39 mc 1 2 2d mo 1 2 39 mo 1 2 2d ml 1 2 39",
  "ml 1 3 2d lf ld 1 3 39 lf ld 1 3 2d lg lk 1 3 39 lg lk 1 2 2e lf 1 2 3a lf 1 2 2e mb 1 2 3a",
  "mb 1 2 2f lc 1 2 3b lc 1 2 2f ld 1 2 3b ld 1 2 2f lk 1 2 3b lk 1 2 2f lj 1 2 3b lj 1 2 2f mb",
  "1 2 3b mb 1 2 2g lj 1 2 3c lj 1 2 2g lk 1 2 3c lk 1 2 2h lj 1 2 3d lj 1 2 2i le 1 2 3e le 1 2",
  "2i mb 1 2 3e mb 1 2 2i mp 1 2 3e mp 1 2 2w mp 1 2 38 lk 1 2 3b lm 1 2 3d lm 1 2 2p ji 1 2 37",
  "lj 5 2 1t mb 1 2 2p mb 1 2 1t ll 1 2 2p ll 1 3 1t le ld 1 3 2p le ld 1 3 1t le lc 1 3 2p le",
  "lc 1 3 1t le ll 1 3 2p le ll 1 3 1t le lf 1 3 2p le lf 1 3 1t mb le 1 3 2p mb le 1 3 1t li ld",
  "1 3 2p li ld 1 3 1t li lc 1 3 2p li lc 1 3 1t li ll 1 3 2p li ll 1 3 1t li lf 1 3 2p li lf 1",
  "3 1t mb li 1 3 2p mb li 1 2 1x mb 1 2 2t mb 1 2 1x ll 1 2 2t ll 1 2 1x lf 1 2 2t lf 1 3 1x le",
  "ld 1 3 2t le ld 1 3 1x le lc 1 3 2t le lc 1 3 1x le ll 1 3 2t le ll 1 3 1x le lf 1 3 2t le lf",
  "1 3 1x mb le 1 3 2t mb le 1 2 21 ll 1 2 2x ll 1 2 21 mb 1 2 2x mb 1 2 27 mb 1 2 33 mb 1 2 27",
  "ll 1 2 33 ll 1 3 27 le ld 1 3 33 le ld 1 3 27 le lc 1 3 33 le lc 1 3 27 le ll 1 3 33 le ll 1",
  "3 27 le lf 1 3 33 le lf 1 3 27 mb le 1 3 33 mb le 1 3 27 m3 ld 1 3 33 m3 ld 1 3 27 m3 lc 1 3",
  "33 m3 lc 1 3 27 m3 ll 1 3 33 m3 ll 1 3 27 m3 lf 1 3 33 m3 lf 1 3 27 m3 mb 1 3 33 m3 mb 1 2 2d",
  "mb 1 2 39 mb 1 2 2d ll 1 2 39 ll 1 3 2d m3 ld 1 3 39 m3 ld 1 3 2d m3 lc 1 3 39 m3 lc 1 3 2d",
  "m3 ll 1 3 39 m3 ll 1 3 2d m3 lf 1 3 39 m3 lf 1 3 2d m3 mb 1 3 39 m3 mb 1 2 2h lc 1 2 3d lc 1",
  "2 2h mb 1 2 3d mb 1 2 2h ll 1 2 3d ll 1 2 2h lf 1 2 3d lf 7 2 q9 lv 1 2 q9 lw 1 3 q9 lv lc 1",
  "3 q9 lw lc 1 3 q9 lv ld 1 3 q9 lw ld 1 3 q9 lv n6 1 3 q9 lw n6 1 2 pd lv 1 2 pd lw 1 3 pd lv",
  "lc 1 3 pd lw lc 1 3 pd lv ld 1 3 pd lw ld 1 3 pd lv n6 1 3 pd lw n6 1 2 qd lv 1 2 qd lw 1 3",
  "qd lv lc 1 3 qd lw lc 1 3 qd lv ld 1 3 qd lw ld 3 2 ph lv 1 2 ph lw 1 3 ph lv lc 1 3 ph lw lc",
  "1 3 ph lv ld 1 3 ph lw ld 3 2 qf lv 1 2 qf lw 1 3 qf lv lc 1 3 qf lw lc 1 3 qf lv ld 1 3 qf",
  "lw ld 1 3 qf lv n6 1 3 qf lw n6 1 2 pj lv 1 2 pj lw 1 3 pj lv lc 1 3 pj lw lc 1 3 pj lv ld 1",
  "3 pj lw ld 1 3 pj lv n6 1 3 pj lw n6 1 2 qh lv 1 2 qh lw 1 3 qh lv lc 1 3 qh lw lc 1 3 qh lv",
  "ld 1 3 qh lw ld 1 3 qh lv n6 1 3 qh lw n6 1 2 pl lv 1 2 pl lw 1 3 pl lv lc 1 3 pl lw lc 1 3",
  "pl lv ld 1 3 pl lw ld 1 3 pl lv n6 1 3 pl lw n6 1 2 qn lv 1 2 qn lw 1 3 qn lv lc 1 3 qn lw lc",
  "1 3 qn lv ld 1 3 qn lw ld 3 2 pr lv 1 2 pr lw 1 3 pr lv lc 1 3 pr lw lc 1 3 pr lv ld 1 3 pr",
  "lw ld 3 2 qt lv 1 2 qt lw 1 3 qt lv lc 1 3 qt lw lc 1 3 qt lv ld 1 3 qt lw ld 1 3 qt lv n6 1",
  "3 qt lw n6 2 2 px lw 2 3 px lw lc 2 3 px lw ld 2 3 px lw n6 1 2 qx lv 1 2 qx lw 1 3 qx lv lc",
  "1 3 qx lw lc 1 3 qx lv ld 1 3 qx lw ld 1 3 qx lv n6 1 3 qx lw n6 1 2 q1 lv 1 2 q1 lw 1 3 q1",
  "lv lc 1 3 q1 lw lc 1 3 q1 lv ld 1 3 q1 lw ld 1 3 q1 lv n6 1 3 q1 lw n6 1 2 q9 lc 1 2 q9 ld 1",
  "2 qd lc 1 2 qd ld 1 2 qf lc 1 2 qf ld 1 2 qh lc 1 2 qh ld 1 2 qn lc 1 2 qn ld 1 2 qt lc 1 2",
  "qt ld 1 2 qx lc 1 2 qx ld 3 3 q9 lv n9 1 3 q9 lw n9 1 4 q9 lv lc n9 1 4 q9 lw lc n9 1 4 q9 lv",
  "ld n9 1 4 q9 lw ld n9 1 4 q9 lv n6 n9 1 4 q9 lw n6 n9 1 3 pd lv n9 1 3 pd lw n9 1 4 pd lv lc",
  "n9 1 4 pd lw lc n9 1 4 pd lv ld n9 1 4 pd lw ld n9 1 4 pd lv n6 n9 1 4 pd lw n6 n9 1 3 qf lv",
  "n9 1 3 qf lw n9 1 4 qf lv lc n9 1 4 qf lw lc n9 1 4 qf lv ld n9 1 4 qf lw ld n9 1 4 qf lv n6",
  "n9 1 4 qf lw n6 n9 1 3 pj lv n9 1 3 pj lw n9 1 4 pj lv lc n9 1 4 pj lw lc n9 1 4 pj lv ld n9",
  "1 4 pj lw ld n9 1 4 pj lv n6 n9 1 4 pj lw n6 n9 1 3 qx lv n9 1 3 qx lw n9 1 4 qx lv lc n9 1 4",
  "qx lw lc n9 1 4 qx lv ld n9 1 4 qx lw ld n9 1 4 qx lv n6 n9 1 4 qx lw n6 n9 1 3 q1 lv n9 1 3",
  "q1 lw n9 1 4 q1 lv lc n9 1 4 q1 lw lc n9 1 4 q1 lv ld n9 1 4 q1 lw ld n9 1 4 q1 lv n6 n9 1 4",
  "q1 lw n6 n9 1 2 q9 li 1 2 q9 lg 1 3 q9 lc n9 1 2 q9 n9 1 3 q9 ld n9 2 2 q9 n6 1 3 q9 n6 n9 1",
  "2 pd li 1 2 pd lg 1 2 pd lc 1 2 pd ld 1 2 pd n9 2 1 qh 4 3 qf lc n9 1 2 qf n9 1 3 qf ld n9 2",
  "2 qf n6 1 3 qf n6 n9 1 2 ph lc 1 2 ph ld 1 2 pj lc 1 2 pj ld 1 2 pj n9 4 2 qh li 1 2 qh lg 1",
  "3 qh lk lc 1 3 qh lk ld 3 2 qh n6 1 3 qh lk n6 1 2 pl li 1 2 pl lg 1 2 pl lc 1 2 pl ld 5 2 qt",
  "li 1 2 qt lg 1 3 qt lk lc 1 3 qt lk ld 1 2 qp lv 1 2 qp lw 1 2 qt n6 1 3 qt lk n6 1 2 px li 1",
  "2 px lg 1 2 px lc 1 2 px ld 1 2 pt lw 6 3 qx lc n9 1 2 qx n9 1 3 qx ld n9 2 2 qx n6 1 3 qx n6",
  "n9 1 2 pr lc 1 2 pr ld 1 2 q1 lc 1 2 q1 ld 1 2 q1 n9 39 1 2x e 1 32 h 1 2p 1 1 2t 1 1 33 1 1",
  "3c 1 1 gp 1 1 2w 1 0 3 2z 1 1 34 1 0 1 37 2u 1 1v 5 1 b4 3 1 2v 1 1 20 1 1 20 1 1 20 1 1 2w 1",
  "1 87 1 1 21 1 1 21 1 1 24 1 1 30 2 1 26 4 0 2 28 1 1 2a 1 1 2a 7 1 2i 2 1 q1 2 1 2i 2 1 23 1",
  "2 1t lm 1 0 1 1u 2 1 2t 1 0 1 1x 2 1 25 1 1 33 1 0 3 15c 1 1 2x 3 1 qo 1 1 qb 1 1 pf 1 1 ps 6",
  "1 1w 1 0 1 2s 1 0 1 2x n 1 21 1 2 21 21 1 3 21 21 21 1 2 21 2e 1 1 2e 1 2 2e 21 1 3 2e 21 21",
  "1 4 2e 21 21 21 1 2 21 2g 1 1 2g 1 2 2g 21 1 3 2g 21 21 1 1 24 1 0 1 1v 1 1 25 1 1 2x 1 2 2x",
  "2x 1 3 2x 2x 2x 1 2 2x 3a 1 1 3a 1 2 3a 2x 1 3 3a 2x 2x 1 4 3a 2x 2x 2x 1 2 2x 3c 1 1 3c 1 2",
  "3c 2x 1 3 3c 2x 2x 1 1 30 1 0 1 2r 1 1 31 265 1 2y 1 1 2e 6q 1 8yp jt 1 gg1 1 0 1 gg4 i 2 9jf",
  "9ll 2 2 9jh 9ll 2 2 9jj 9ll 2 2 9jl 9ll 2 2 9jn 9ll 2 2 9jp 9ll 2 2 9jr 9ll 2 2 9jt 9ll 2 2",
  "9jv 9ll 2 2 9jx 9ll 2 2 9jz 9ll 2 2 9k1 9ll 3 2 9k4 9ll 2 2 9k6 9ll 2 2 9k8 9ll 7 2 9kf 9ll 1",
  "2 9kf 9lm 2 2 9ki 9ll 1 2 9ki 9lm 2 2 9kl 9ll 1 2 9kl 9lm 2 2 9ko 9ll 1 2 9ko 9lm 2 2 9kr 9ll",
  "1 2 9kr 9lm n 2 9ja 9ll a 2 9lp 9ll 1 2 9l4 9l6 d 2 9m3 9ll 2 2 9m5 9ll 2 2 9m7 9ll 2 2 9m9",
  "9ll 2 2 9mb 9ll 2 2 9md 9ll 2 2 9mf 9ll 2 2 9mh 9ll 2 2 9mj 9ll 2 2 9ml 9ll 2 2 9mn 9ll 2 2",
  "9mp 9ll 3 2 9ms 9ll 2 2 9mu 9ll 2 2 9mw 9ll 7 2 9n3 9ll 1 2 9n3 9lm 2 2 9n6 9ll 1 2 9n6 9lm 2",
  "2 9n9 9ll 1 2 9n9 9lm 2 2 9nc 9ll 1 2 9nc 9lm 2 2 9nf 9ll 1 2 9nf 9lm n 2 9ly 9ll 3 2 9nz 9ll",
  "1 2 9o0 9ll 1 2 9o1 9ll 1 2 9o2 9ll 4 2 9od 9ll 1 2 9mb 9mw 1e 0 1 3cw 1 1 3hm 1 1 3cy 1 0 1",
  "3ho 1 0 2 3cz 1 0 5 3hs 1 1 3dm 1 0 2 3d2 1 1 3dt 1 0 9 3d5 1 0 k 3fl 1 1 3fk 1 0 1 3dg 1 0 1",
  "3if 1 1 3ik 1 1 3im 1 1 3ir 1 1 3iv 1 1 3ix 1 1 3do 1 1 3j1 1 1 3j3 1 0 1 3dp 1 1 3ds 1 0 1",
  "3du 1 1 3dz 1 1 3e1 1 0 4 3e3 1 1 3ea 1 1 3ee 1 1 3eo 1 1 3ev 1 1 3f0 1 0 1 3jl 1 0 2 3fb 1 0",
  "1 3gk 1 1 3go 1 0 1 3gx 1 1 3h0 1 1 3ha 1 1 3hd n4e 1 ui 1 1 uk 5v 1 x2n 3m 1 1v 1 1 1y 1 1",
  "29 4 1 86 1 1 9f o3 1 x0n 1 1 xtj 1 1 h7 1 1 xua a 1 i5 fbr 1 rpk 1 1 kc4 1 1 s7e 1 1 rt4 1 1",
  "lw1 1 1 fg2 1 1 gkl 1 1 vj0 1 1 vj0 1 1 hn5 1 1 ssx 1 1 gw7 1 1 hmw 1 1 jcm 1 1 ne1 1 1 p6t 1",
  "1 qin 1 1 qt6 1 1 r20 1 1 sjz 1 1 kxu 1 1 ljv 1 1 mah 1 1 mvy 1 1 q4d 1 1 sq2 1 1 uep 1 1 fia",
  "1 1 ghh 1 1 l50 1 1 mjf 1 1 qi5 1 1 v8e 1 1 ifk 1 1 m3v 1 1 qfh 1 1 r50 1 1 jih 1 1 pnc 1 1",
  "qvz 1 1 iq2 1 1 kd3 1 1 lm2 1 1 mpo 1 1 slq 1 1 fpi 1 1 g53 1 1 gda 1 1 jwk 1 1 l3n 1 1 mj4 1",
  "1 nhj 1 1 pa9 1 1 qh2 1 1 qjg 1 1 s1b 1 1 tv6 1 1 upb 1 1 v7e 1 1 nt8 1 1 nzz 1 1 otc 1 1 q15",
  "1 1 t1g 1 1 vb3 1 1 rfa 1 1 hjz 1 1 iro 1 1 okg 1 1 pdq 1 1 mle 1 1 nuy 1 1 rsy 1 1 ttj 1 1",
  "hjs 1 1 i8y 1 1 kyb 1 1 lp6 1 1 lxr 1 1 oq7 1 1 oxj 1 1 tor 1 1 gcy 1 1 pe3 1 1 g64 1 1 g5o 1",
  "1 o4c 1 1 ou6 1 1 q29 1 1 tpx 1 1 rk0 1 1 jin 1 1 kxu 1 1 rge 1 1 fg9 1 1 i5j 1 1 iz6 1 1 mtj",
  "1 1 n74 1 1 gev 1 1 nwb 1 1 fr3 1 1 iw9 1 1 ff1 1 1 lho 1 1 k1k 1 1 opu 1 1 gjn 1 1 hge 1 1",
  "ni9 1 1 q4p 1 1 re2 1 1 la2 1 1 sds 1 1 lfs 1 1 jjy 1 1 put 1 1 jog 1 1 n6t 1 1 fji 1 1 g2x 1",
  "1 g5l 1 1 kn5 1 1 oo7 1 1 prj 1 1 rf6 1 1 ssv 1 1 gdx 1 1 gn6 1 1 ho3 1 1 ir0 1 1 k3p 1 1 m4e",
  "1 1 nxm 1 1 tkd 1 1 ui2 1 1 vbr 1 1 vda 1 1 gbf 1 1 kau 1 1 l87 1 1 sbm 1 1 ino 1 1 j9s 1 1",
  "jcw 1 1 jve 1 1 lyb 1 1 mdl 1 1 n0p 1 1 o22 1 1 ovo 1 1 pdb 1 1 s9y 1 1 q9a 1 1 sgz 1 1 t3e 1",
  "1 g7r 1 1 gbn 1 1 gql 1 1 ma0 1 1 r0i 1 1 re2 1 1 iq1 1 1 iyd 1 1 jnf 1 1 l9q 1 1 oji 1 1 mt1",
  "1 1 fl0 1 1 h6h 1 1 i5j 1 1 iii 1 1 izg 1 1 muq 1 1 mzt 1 1 p7e 1 1 pc6 1 1 svo 1 1 tti 1 1",
  "tvs 1 1 u1k 1 1 fpn 1 1 o1a 1 1 ss4 1 1 trs 1 1 j4x 1 1 fie 1 1 fyy 1 1 i5q 1 1 i7z 1 1 k2h 1",
  "1 kxu 1 1 mha 1 1 ncy 1 1 q9o 1 1 sjg 1 1 vil 1 1 k94 1 1 tny 1 1 gax 1 1 kfv 1 1 kj7 1 1 lkx",
  "1 1 luk 1 1 mx5 1 1 n6h 1 1 nsb 1 1 opc 1 1 u3i 1 1 g31 1 1 je6 1 1 tq0 1 1 fu3 1 1 ie1 1 1",
  "lpm 1 1 sa2 1 1 ivf 1 1 j7o 1 1 kk7 1 1 mtj 1 1 tqe 1 1 g89 1 1 glr 1 1 i91 1 1 k5v 1 1 kem 1",
  "1 ko8 1 1 lid 1 1 mx2 1 1 naa 1 1 p6h 1 1 r0v 1 1 r1d 1 1 sss 1 1 tsy 1 1 gfz 1 1 lve 1 1 gm5",
  "1 1 mhc 1 1 n14 1 1 qgq 1 1 tr7 1 1 uvr 1 1 vbz 1 1 kgn 1 1 lor 1 1 pns 1 1 o97 1 1 obk 1 1",
  "olu 1 1 mo0 1 1 m8p 1 1 riw 1 1 fk0 1 1 px2 1 1 g8q 1 1 g7b 1 1 ip2 1 1 jir 1 1 onq 1 1 i2t 1",
  "1 ljy 1 1 kac 1 1 saj 1 1 qx8 1 1 tot 1 1 r63 1 1 iqb 1 1 g1s 1 1 gxs 3 1 hga 2 1 k8k 3 1 g66",
  "1 1 mqy 1 1 ngq 1 1 ny4 1 1 nz2 1 1 nz9 1 1 o0f 1 1 tw6 1 1 on2 1 1 p8d 2 1 qhe 2 1 rg8 3 1",
  "shk 1 1 sn1 4 1 u7j 1 1 u7w 1 1 u94 1 1 v5g 1 1 sm6 1 1 trr 1 1 fqm 1 1 fzb 1 1 g25 1 1 gcp 1",
  "1 gdg 1 1 ggh 1 1 gwt 1 1 gzq 1 1 h2g 1 1 hfk 1 1 hig 1 1 i90 1 1 i9a 1 1 j2s 1 1 j8o 1 1 j9q",
  "1 1 jci 1 1 k0f 1 1 k4i 1 1 k9d 1 1 kn9 1 1 lmf 1 1 lqy 1 1 lya 1 1 mem 1 1 mjv 1 1 mxu 1 1",
  "ntd 1 1 ny6 1 1 nyh 1 1 nyg 1 1 nyo 1 1 nyu 1 1 nz1 1 0 1 o0d 1 1 o5c 1 1 o75 1 1 og0 1 1 ovo",
  "1 1 ow9 1 1 oxt 1 1 p6a 1 1 pad 1 1 pnx 1 1 prt 1 1 prt 1 1 q53 1 1 r2o 1 1 r6e 1 1 rgh 1 1",
  "ri1 1 1 rtf 1 1 ruw 1 1 sdy 1 1 shk 1 1 tsz 1 1 u0v 1 1 u2j 1 1 j1x 1 1 36cu 1 1 pp4 3 1 ffq",
  "1 1 g51 1 1 g2w 1 1 fpc 1 1 g1x 1 1 g3k 1 1 gcn 1 1 ge2 1 1 gwt 1 1 gut 1 1 gwp 1 1 gyq 1 1",
  "hga 1 1 hir 1 1 hms 1 1 hn8 1 1 huq 1 1 i08 1 1 iqa 1 1 iqh 1 1 iuh 1 1 iwd 1 1 j4o 1 1 j7y 1",
  "1 j60 1 1 j9q 1 1 j8g 1 1 jci 1 1 jec 1 1 jpg 1 1 jrw 1 1 jte 1 1 k0m 1 1 k8k 1 1 kd3 1 1 kd7",
  "1 1 keu 1 1 l89 1 1 la2 1 1 lkx 1 1 lwb 1 1 lvv 1 1 lya 1 1 m5a 1 1 mem 1 1 nmv 1 1 mk5 1 1",
  "mnj 1 1 mqy 1 1 n01 1 1 n46 1 1 n5n 1 1 nbx 1 1 nbz 1 1 ngq 1 1 nh7 1 1 nhw 1 1 nka 1 1 nk0 1",
  "1 nv0 1 1 o8h 1 1 og0 1 1 ol7 1 1 orf 1 1 ovo 1 1 p4u 1 1 pad 1 1 pxu 1 1 q27 1 1 qrd 1 1 r41",
  "1 1 r5y 1 1 r6e 1 1 ren 1 1 rg8 1 1 rez 1 1 rgh 1 1 rge 1 1 rfx 1 1 ri1 1 1 rka 1 1 ruw 1 1",
  "sag 1 1 sj6 1 1 srd 1 1 sxi 1 1 tq4 1 1 tsz 1 1 tw6 1 1 tzv 1 1 u0v 1 1 u17 1 1 u2j 1 1 umq 1",
  "1 vj0 1 1 313e 1 1 3138 1 1 33dh 1 1 brx 1 1 cns 1 1 cop 1 1 39e1 1 1 3bgw 1 1 3i6r 1 1 vgj 1",
  "1 vim 13 2 2u 2u 1 2 2u 2x 1 2 2u 30 1 3 2u 2u 2x 1 3 2u 2u 30 1 2 37 38 1 2 37 38 d 2 12s",
  "12u 1 2 12s 12d 1 2 12s 12j 1 2 132 12u 1 2 12s 12l 6 2 15l 14k 2 2 16a 14n 1 1 15u 1 1 15c 1",
  "0 1 15f 1 0 2 15n 1 1 160 1 1 162 2 2 161 14x 1 2 161 14y 1 3 161 14s 14x 1 3 161 14s 14y 1 2",
  "15c 14n 1 2 15c 14o 1 2 15c 14s 1 2 15d 14s 1 2 15e 14s 1 2 15f 14s 1 2 15g 14s 1 2 15h 14s 1",
  "2 15i 14s 2 2 15k 14s 1 2 15l 14s 1 2 15m 14s 1 2 15n 14s 1 2 15o 14s 2 2 15q 14s 2 2 15s 14s",
  "1 2 15t 14s 2 2 15v 14s 1 2 15w 14s 2 2 15y 14s 1 2 15z 14s 1 2 160 14s 1 2 161 14s 1 2 162",
  "14s 1 2 15h 14p 1 2 15d 14v 1 2 15n 14v 1 2 15w 14v 1 2 15c 15o 1 1 19t 1 1 19t 1 1 1a3 1 1",
  "1a3 1 1 1a3 1 1 1a3 1 1 1a6 1 1 1a6 1 1 1a6 1 1 1a6 1 1 1a8 1 1 1a8 1 1 1a8 1 1 1a8 1 1 1a2 1",
  "1 1a2 1 1 1a2 1 1 1a2 1 1 1a7 1 1 1a7 1 1 1a7 1 1 1a7 1 1 1a1 1 1 1a1 1 1 1a1 1 1 1a1 1 1 1b8",
  "1 1 1b8 1 1 1b8 1 1 1b8 1 1 1ba 1 1 1ba 1 1 1ba 1 1 1ba 1 1 1ac 1 1 1ac 1 1 1ac 1 1 1ac 1 1",
  "1ab 1 1 1ab 1 1 1ab 1 1 1ab 1 1 1ae 1 1 1ae 1 1 1ae 1 0 1 1ae 1 1 1af 1 1 1af 1 1 1af 1 1 1al",
  "1 1 1al 1 1 1ak 1 1 1ak 1 1 1am 1 1 1am 1 1 1ag 1 1 1ag 1 1 1aw 1 1 1aw 1 1 1ap 1 1 1ap 1 1",
  "1bd 1 1 1bd 1 1 1bd 1 1 1bd 1 1 1bj 1 1 1bj 1 1 1bj 1 1 1bj 1 1 1bn 1 1 1bn 1 1 1bn 1 1 1bn 1",
  "1 1bl 1 1 1bl 1 1 1bl 1 1 1bl 1 1 1bu 1 0 1 1bu 1 1 1bv 1 1 1bv 1 1 1bv 1 2 1cl 190 1 2 1cl",
  "190 1 1 1c1 1 1 1c1 1 1 1c1 1 1 1c1 1 1 1by 1 1 1by 1 1 1by 1 1 1by 1 1 1ci 1 1 1ci 1 2 1ci",
  "190 1 2 1ci 190 y 1 1bh 1 1 1bh 1 1 1bh 1 1 1bh 1 1 1c7 1 1 1c7 1 1 1c6 1 1 1c6 1 1 1c8 1 1",
  "1c8 1 2 1c7 19w 1 1 1cb 1 1 1cb 1 1 1c5 1 1 1c5 1 1 1c9 1 1 1c9 1 1 1cg 1 1 1cg 1 1 1cg 1 1",
  "1cg 1 1 18p 1 1 18p 1 3 18q 190 17r 1 3 18q 190 17r 1 3 18q 190 1cl 1 3 18q 190 1cl 1 3 18q",
  "190 18o 1 3 18q 190 18o 1 3 18q 190 1c7 1 3 18q 190 1c7 1 3 18q 190 1c6 1 3 18q 190 1c6 1 3",
  "18q 190 1c8 1 3 18q 190 1c8 1 3 18q 190 1cg 1 3 18q 190 1cg 1 3 18q 190 1cg 1 3 18q 190 18p 1",
  "3 18q 190 18p 1 3 18q 190 18p 1 1 1cc 1 1 1cc 1 1 1cc 1 1 1cc 1 3 18q 190 17w 1 3 18q 190 17x",
  "1 3 18q 190 18l 1 3 18q 190 18p 1 3 18q 190 18q 1 2 17s 17w 1 2 17s 17x 1 2 17s 17y 1 2 17s",
  "18l 1 2 17s 18p 1 2 17s 18q 1 2 17u 17w 1 2 17u 17x 1 2 17u 17y 1 2 17u 18l 1 2 17u 18p 1 2",
  "17u 18q 1 2 17v 17w 1 2 17v 18l 1 2 17v 18p 1 2 17v 18q 1 2 17w 17x 1 2 17w 18l 1 2 17x 17w 1",
  "2 17x 18l 1 2 17y 17w 1 2 17y 17x 1 2 17y 18l 1 2 183 17w 1 2 183 17x 1 2 183 17y 1 2 183 18l",
  "1 2 185 17x 1 2 185 18l 1 2 186 17w 1 2 186 17x 1 2 186 17y 1 2 186 18l 1 2 187 17x 1 2 187",
  "18l 1 2 188 18l 1 2 189 17w 1 2 189 18l 1 2 18a 17w 1 2 18a 18l 1 2 18h 17w 1 2 18h 17x 1 2",
  "18h 17y 1 2 18h 18l 1 2 18h 18p 1 2 18h 18q 1 2 18i 17x 1 2 18i 18l 1 2 18i 18p 1 2 18i 18q 1",
  "2 18j 17r 1 2 18j 17w 1 2 18j 17x 1 2 18j 17y 1 2 18j 18k 1 2 18j 18l 1 2 18j 18p 1 2 18j 18q",
  "1 2 18k 17w 1 2 18k 17x 1 2 18k 17y 1 2 18k 18l 1 2 18k 18p 1 2 18k 18q 1 2 18l 17w 1 2 18l",
  "17x 1 2 18l 17y 1 2 18l 18l 1 2 18l 18p 1 2 18l 18q 1 2 18m 17w 1 2 18m 17x 1 2 18m 17y 1 2",
  "18m 18l 1 2 18m 18p 1 2 18m 18q 1 2 18n 17w 1 2 18n 18l 1 2 18n 18p 1 2 18n 18q 1 2 18q 17w 1",
  "2 18q 17x 1 2 18q 17y 1 2 18q 18l 1 2 18q 18p 1 2 18q 18q 1 2 180 19s 1 2 181 19s 1 2 18p 19s",
  "7 3 18q 190 181 1 3 18q 190 182 1 3 18q 190 18l 1 3 18q 190 18m 1 3 18q 190 18p 1 3 18q 190",
  "18q 1 2 17s 181 1 2 17s 182 1 2 17s 18l 1 2 17s 18m 1 2 17s 18p 1 2 17s 18q 1 2 17u 181 1 2",
  "17u 182 1 2 17u 18l 1 2 17u 18m 1 2 17u 18p 1 2 17u 18q 1 2 17v 181 1 2 17v 182 1 2 17v 18l 1",
  "2 17v 18m 1 2 17v 18p 1 2 17v 18q 1 2 18h 18p 1 2 18h 18q 1 2 18i 18p 1 2 18i 18q 1 2 18j 17r",
  "1 2 18j 18k 1 2 18j 18l 1 2 18j 18p 1 2 18j 18q 1 2 18k 18l 1 2 18k 18p 1 2 18k 18q 1 2 18l",
  "17r 1 2 18l 18l 1 2 18m 181 1 2 18m 182 1 2 18m 18l 1 2 18m 18m 1 2 18m 18p 1 2 18m 18q 1 2",
  "18p 19s 1 2 18q 181 1 2 18q 182 1 2 18q 18l 1 2 18q 18m 1 2 18q 18p 1 2 18q 18q 1 3 18q 190",
  "17w 1 3 18q 190 17x 1 3 18q 190 17y 1 3 18q 190 18l 1 3 18q 190 18n 1 2 17s 17w 1 2 17s 17x 1",
  "2 17s 17y 1 2 17s 18l 1 2 17s 18n 1 2 17u 17w 1 2 17u 17x 1 2 17u 17y 1 2 17u 18l 1 2 17u 18n",
  "1 2 17v 18l 1 2 17w 17x 1 2 17w 18l 1 2 17x 17w 1 2 17x 18l 1 2 17y 17w 1 2 17y 18l 1 2 183",
  "17w 1 2 183 17x 1 2 183 17y 1 2 183 18l 1 2 185 17x 1 2 185 17y 1 2 185 18l 1 2 186 17w 1 2",
  "186 17x 1 2 186 17y 1 2 186 18l 1 2 187 17x 1 2 188 18l 1 2 189 17w 1 2 189 18l 1 2 18a 17w 1",
  "2 18a 18l 1 2 18h 17w 1 2 18h 17x 1 2 18h 17y 1 2 18h 18l 1 2 18i 17x 1 2 18i 18l 1 2 18j 17w",
  "1 2 18j 17x 1 2 18j 17y 1 2 18j 18k 1 2 18j 18l 1 2 18k 17w 1 2 18k 17x 1 2 18k 17y 1 2 18k",
  "18l 1 2 18k 18n 1 2 18l 17w 1 2 18l 17x 1 2 18l 17y 1 2 18l 18l 1 2 18m 17w 1 2 18m 17x 1 2",
  "18m 17y 1 2 18m 18l 1 2 18m 18n 1 2 18n 17w 1 2 18n 18l 1 2 18n 19s 1 2 18q 17w 1 2 18q 17x 1",
  "2 18q 17y 1 2 18q 18l 1 2 18q 18n 1 3 18q 190 18l 1 3 18q 190 18n 1 2 17s 18l 1 2 17s 18n 1 2",
  "17u 18l 1 2 17u 18n 1 2 17v 18l 1 2 17v 18n 1 2 183 18l 1 2 183 18n 1 2 184 18l 1 2 184 18n 1",
  "2 18j 18k 1 2 18j 18l 1 2 18k 18l 1 2 18m 18l 1 2 18m 18n 1 2 18q 18l 1 2 18q 18n 1 3 18g 18u",
  "18x 1 3 18g 18v 18x 1 3 18g 18w 18x 1 2 187 18p 1 2 187 18q 1 2 189 18p 1 2 189 18q 1 2 18a",
  "18p 1 2 18a 18q 1 2 183 18p 1 2 183 18q 1 2 184 18p 1 2 184 18q 1 2 17x 18p 1 2 17x 18q 1 2",
  "17w 18p 1 2 17w 18q 1 2 17y 18p 1 2 17y 18q 1 2 185 18p 1 2 185 18q 1 2 186 18p 1 2 186 18q 1",
  "2 184 17w 1 2 184 17x 1 2 184 17y 1 2 184 18l 1 2 184 181 1 2 183 181 1 2 185 181 1 2 186 181",
  "1 2 187 18p 1 2 187 18q 1 2 189 18p 1 2 189 18q 1 2 18a 18p 1 2 18a 18q 1 2 183 18p 1 2 183",
  "18q 1 2 184 18p 1 2 184 18q 1 2 17x 18p 1 2 17x 18q 1 2 17w 18p 1 2 17w 18q 1 2 17y 18p 1 2",
  "17y 18q 1 2 185 18p 1 2 185 18q 1 2 186 18p 1 2 186 18q 1 2 184 17w 1 2 184 17x 1 2 184 17y 1",
  "2 184 18l 1 2 184 181 1 2 183 181 1 2 185 181 1 2 186 181 1 2 184 17w 1 2 184 17x 1 2 184 17y",
  "1 2 184 18l 1 2 183 18n 1 2 184 18n 1 2 187 18l 1 2 183 17w 1 2 183 17x 1 2 183 17y 1 2 184",
  "17w 1 2 184 17x 1 2 184 17y 1 2 187 18l 1 2 188 18l 1 2 17r 18r 1 2 17r 18r j 3 17u 17w 18l 1",
  "3 17u 17x 17w 1 3 17u 17x 17w 1 3 17u 17x 18l 1 3 17u 17y 18l 1 3 17u 18l 17w 1 3 17u 18l 17x",
  "1 3 17u 18l 17y 1 3 17w 18l 17x 1 3 17w 18l 17x 1 3 17x 18l 18q 1 3 17x 18l 18p 1 3 183 17x",
  "17w 1 3 183 17w 17x 1 3 183 17w 18p 1 3 183 18l 17x 1 3 183 18l 17x 1 3 183 18l 17w 1 3 183",
  "18l 18l 1 3 183 18l 18l 1 3 185 17x 17x 1 3 185 17x 17x 1 3 185 18l 18l 1 3 184 17x 18l 1 3",
  "184 17x 18l 1 3 184 17w 18q 1 3 184 18l 17y 1 3 184 18l 17y 1 3 184 18l 18l 1 3 184 18l 18l 1",
  "3 186 17x 18p 1 3 186 17y 18l 1 3 186 17y 18l 1 3 187 18l 17x 1 3 187 18l 17x 1 3 187 18l 18l",
  "1 3 187 18l 18q 1 3 189 17w 18l 1 3 189 18l 18l 1 3 189 18l 18l 1 3 189 18l 18p 1 3 18a 18l",
  "18l 1 3 18a 18l 18q 1 3 18a 18l 18p 1 3 18h 17y 18l 1 3 18h 17y 18l 1 3 18i 18l 17x 1 3 18i",
  "18l 18l 1 3 18k 17x 18l 1 3 18k 17x 18q 1 3 18k 17x 18p 1 3 18k 17w 17w 1 3 18k 17w 17w 1 3",
  "18k 17y 18l 1 3 18k 17y 18l 1 3 18k 18l 17x 1 3 18k 18l 17x 1 3 18l 17x 17w 1 3 18l 17x 18l 1",
  "3 18l 17x 18q 1 3 18l 17w 17x 1 3 18l 17w 18l 1 3 18l 17y 17w 1 3 18l 17y 18l 3 3 18l 17w 17y",
  "1 3 18n 18l 17w 1 3 18n 18l 18l 1 3 18m 17x 18l 1 3 18m 17x 18p 1 3 18m 17w 18l 1 3 18m 17w",
  "18l 1 3 18m 17w 18p 1 3 18m 18l 18q 1 3 18m 18l 18p 1 3 18q 18l 18l 1 3 18q 18l 18l 1 3 17s",
  "17y 18q 1 3 17u 17w 18q 1 3 17u 17w 18p 1 3 17u 17y 18q 1 3 17u 17y 18p 1 3 17u 18l 18q 1 3",
  "17u 18l 18p 1 3 17w 18l 18q 1 3 17w 17x 18p 1 3 17w 18l 18p 1 3 183 17y 18p 1 3 185 17x 18q 1",
  "3 184 17x 18q 1 3 186 17x 18q 1 3 18k 17w 18q 1 3 18k 18l 18q 1 3 18q 17x 18q 1 3 18q 17w 18q",
  "1 3 18q 18l 18q 1 3 18l 18l 18q 1 3 18i 18l 18q 1 3 18m 17x 18q 1 3 18i 18l 17x 1 3 18k 17x",
  "18l 1 3 189 18l 18q 1 3 18j 18l 18q 1 3 18m 17w 17x 1 3 18l 17y 18q 1 3 18k 17w 18l 1 3 18j",
  "18l 18l 1 3 18k 17w 18l 1 3 18m 17w 17x 1 3 17w 17x 18q 1 3 17x 17w 18q 1 3 18l 17w 18q 1 3",
  "18h 18l 18q 1 3 17s 17x 18q 1 3 18j 18l 18l 1 3 189 17w 18l 1 3 185 18l 18l 1 3 183 17y 18q 1",
  "3 18m 17w 18q 15 3 185 18k 1ci 1 3 18i 18k 1ci 1 4 17r 18k 18k 18n 1 4 17r 18j 17s 181 1 4",
  "18l 17x 18l 17z 1 4 185 18k 189 18l 1 4 181 183 18o 18k 1 4 189 18k 18q 18n 1 4 18o 183 18k",
  "18l 1 3 185 18k 18p 1m 1 2n 1 1 2n p 1 2n 1 1 2n 1 1 2n y 2 18g 18r 6 2 18g 18u 2 2 18g 18v 2",
  "2 18g 18w 2 2 18g 18x 2 2 18g 18y 1 1 17l 1 2 17r 18z 1 2 17r 18z 1 2 17r 190 1 2 17r 190 1 2",
  "18o 190 1 2 18o 190 1 2 17r 191 1 2 17r 191 1 2 18q 190 1 2 18q 190 1 2 18q 190 1 2 18q 190 1",
  "1 17r 1 0 1 17r 1 1 17s 1 1 17s 1 0 1 17s 1 0 1 17t 1 1 17u 1 1 17u 1 0 1 17u 1 1 17v 1 1 17v",
  "1 0 1 17v 1 1 17w 1 1 17w 1 0 1 17w 1 1 17x 1 1 17x 1 0 1 17x 1 1 17y 1 1 17y 1 0 1 17y 1 0 1",
  "17z 1 0 1 180 1 0 1 181 1 0 1 182 1 1 183 1 1 183 1 0 1 183 1 1 184 1 1 184 1 0 1 184 1 1 185",
  "1 1 185 1 0 1 185 1 1 186 1 1 186 1 0 1 186 1 1 187 1 1 187 1 0 1 187 1 1 188 1 1 188 1 0 1",
  "188 1 1 189 1 1 189 1 0 1 189 1 1 18a 1 1 18a 1 1 18a 1 1 18h 1 1 18h 1 1 18h 1 0 1 18h 1 1",
  "18i 1 1 18i 1 0 1 18i 1 1 18j 1 1 18j 1 0 1 18j 1 1 18k 1 1 18k 1 0 1 18k 1 1 18l 1 1 18l 1 0",
  "1 18l 1 1 18m 1 1 18m 1 0 1 18m 1 1 18n 1 1 18n 1 0 1 18n 1 0 1 18o 1 0 1 18p 1 1 18q 1 1 18q",
  "1 1 18q 1 3 18k 17r 18z 1 3 18k 17r 18z 1 3 18k 17r 190 1 3 18k 17r 190 1 3 18k 17r 191 1 3",
  "18k 17r 191 1 2 18k 17r 1 2 18k 17r k 0 9 1c 8 0 p 1t 5 1 2n 2 0 p 2p c 1 9o2 1 1 9lt 1 1 9lv",
  "1 1 9lx 1 1 9lz 1 1 9m1 1 1 9nn 1 1 9np 1 1 9nr 1 1 9mr 1 1 9oc 1 1 9lu 1 1 9lw 1 1 9ly 1 1",
  "9m0 1 0 1 9m2 1 1 9m5 1 1 9m7 1 1 9m9 1 1 9mb 1 1 9md 1 1 9mf 1 1 9mh 1 1 9mj 1 1 9ml 1 1 9mn",
  "1 1 9mp 1 1 9ms 1 1 9mu 1 1 9mw 1 0 5 9my 1 1 9n6 1 1 9n9 1 1 9nc 1 1 9nf 1 0 4 9ni 1 1 9no 1",
  "1 9nq 1 0 5 9ns 1 1 9nz 1 1 9o3 1 0 1 9ll 1 1 3fk 1 0 1 3cw 1 1 3hm 1 1 3cy 1 0 1 3ho 1 0 2",
  "3cz 1 0 5 3hs 1 1 3dm 1 0 2 3d2 1 1 3dt 1 0 9 3d5 4 0 5 3fl 3 0 5 3fr 3 0 5 3fx 3 0 2 3g3 1id",
  "0 1 k0 1 1 6e 1 1 ih 1 1 gj 2 1 ir 1 1 xuu 1 1 it 1 1 is 1 0 1 gm 1 1 5u9 1 1 go 1 1 gu 1 1",
  "ix 1 1 h0 1 1 gy 1 1 gw 1 1 ij 1 1 87 1 1 ik 1 1 h3 1 1 hw 1 0 1 iy 1 1 h8 1 1 2mmc 1 1 x3i 1",
  "1 ha 1 1 2mmd 1 1 i6 1 1 2mme 1 1 6w 1 0 1 hi 1 1 35 1 1 hm 1 1 2mmg 1 0 1 hp 1 1 hs 1 1 iw 1",
  "1 iu 1 1 xuv 1 1 iv 1 1 i0 1 1 8s1 2 1 i7 1 0 1 ip 1 1 ig 1 0 2 cg 1 1 2mmi 1 1 2mn2 1r4 2",
  "1huh 1hve 2 2 1huj 1hve f 2 1hut 1hve 3n 2 1hyp 1hyf 1 2 1hyq 1hyf f0 2 1idj 1ida 1 2 1idj",
  "1idz a7 2 1int 1inu 1 2 1int 1ink 2 2 1int 1inx 70 2 1iuw 1iun 1 2 1iux 1iun ot 2 1jjp 1jjk",
  "10w8 0 p 1t 1 0 p 2p 1 0 p 1t 1 0 6 2p 2 0 h 2x 1 0 p 1t 1 0 p 2p 1 1 1t 2 0 1 1v 3 1 1z 3 0",
  "1 22 3 0 3 26 2 0 7 2b 1 0 3 2p 2 1 2u 2 0 6 2w 2 0 a 34 1 0 p 1t 1 0 p 2p 1 0 1 1t 2 0 3 1w",
  "3 0 7 22 2 0 6 2b 2 0 p 2p 1 0 1 1t 2 0 3 1w 2 0 4 21 2 1 27 4 0 6 2b 2 0 p 2p 1 0 p 1t 1 0 p",
  "2p 1 0 p 1t 1 0 p 2p 1 0 p 1t 1 0 p 2p 1 0 p 1t 1 0 p 2p 1 0 p 1t 1 0 p 2p 1 0 p 1t 1 0 p 2p",
  "1 1 8h 1 1 fr 3 0 g pd 1 1 pk 1 0 6 pv 2 0 o q9 2 1 qd 1 1 qg 1 1 qi 1 1 qu 1 1 qp 1 1 qo 1 0",
  "g pd 1 1 pk 1 0 6 pv 2 0 o q9 2 1 qd 1 1 qg 1 1 qi 1 1 qu 1 1 qp 1 1 qo 1 0 g pd 1 1 pk 1 0 6",
  "pv 2 0 o q9 2 1 qd 1 1 qg 1 1 qi 1 1 qu 1 1 qp 1 1 qo 1 0 g pd 1 1 pk 1 0 6 pv 2 0 o q9 2 1",
  "qd 1 1 qg 1 1 qi 1 1 qu 1 1 qp 1 1 qo 1 0 g pd 1 1 pk 1 0 6 pv 2 0 o q9 2 1 qd 1 1 qg 1 1 qi",
  "1 1 qu 1 1 qp 1 1 qo 1 0 1 rg 3 0 9 1c 1 0 9 1c 1 0 9 1c 1 0 9 1c 1 0 9 1c 4ch 0 1 17r 1 1",
  "17w 1 1 17z 2 1 18o 1 1 182 1 1 17x 1 1 187 1 1 18q 1 0 3 18j 1 1 183 1 1 189 1 1 18h 1 1 185",
  "1 1 18i 1 1 181 1 1 184 1 0 1 17u 1 1 17y 1 1 180 1 1 186 1 1 188 1 1 18a 1 1 19q 1 1 1bu 1 1",
  "1b5 1 1 19r 2 1 17s 1 1 17w 2 1 18n 3 1 17x 2 1 18q 1 0 3 18j 1 1 183 1 1 189 1 1 18h 1 1 185",
  "1 1 18i 2 1 184 1 0 1 17u 1 1 17y 2 1 186 2 1 18a 7 1 17w 5 1 17x 2 1 18q 2 1 18k 2 1 18m 1 1",
  "183 1 1 189 2 1 185 1 1 18i 2 1 184 3 1 17y 2 1 186 2 1 18a 2 1 1bu 2 1 19r 2 1 17s 1 1 17w 2",
  "1 18n 3 1 17x 1 1 187 1 1 18q 1 1 18j 2 0 1 18l 1 1 183 1 1 189 1 1 18h 1 1 185 1 1 18i 2 1",
  "184 1 0 1 17u 1 1 17y 2 1 186 1 1 188 1 1 18a 1 1 19q 2 1 1b5 2 0 1 17r 1 1 17w 1 1 17z 1 0 1",
  "18n 1 1 182 1 1 17x 1 1 187 1 1 18q 2 0 2 18k 1 1 183 1 1 189 1 1 18h 1 1 185 1 1 18i 1 1 181",
  "1 1 184 1 0 1 17u 1 1 17y 1 1 180 1 1 186 1 1 188 1 1 18a 6 1 17s 1 1 17w 1 1 17z 2 1 18o 1 1",
  "182 1 1 17x 1 1 187 1 1 18q 2 0 2 18k 1 1 183 1 1 189 1 1 18h 1 1 185 1 1 18i 1 1 181 1 1 184",
  "1 0 1 17u 1 1 17y 1 1 180 1 1 186 1 1 188 1 1 18a 2lx 0 9 1c 1ds7 1 fgd 1 1 fg8 1 1 fgh 1 1",
  "2tcy 1 1 fog 1 1 fqm 1 1 fqz 1 1 fsy 1 1 fwa 1 1 fx5 1 1 fzb 1 1 fyn 1 1 ae6 1 1 2ud6 1 1 g25",
  "1 1 g2c 1 1 g2s 1 1 g3b 1 1 2u58 1 1 aex 1 1 g2v 1 1 g3x 1 1 2u6j 1 1 g47 1 1 g4k 1 1 fkc 1 1",
  "g4s 1 1 g51 1 1 3ly7 1 1 g6t 1 1 g77 1 1 afz 1 1 g8r 1 1 g92 1 1 gaa 1 1 gaf 1 1 ahh 1 1 gcn",
  "1 1 gcp 1 1 gdg 1 1 ge2 1 0 1 ged 1 1 gev 1 1 gg9 1 1 ggh 1 1 ggq 1 1 ghf 1 1 ghp 1 1 ghr 1 1",
  "ghr 1 1 ghr 1 1 2v58 1 1 m7k 1 1 gju 1 1 gkf 1 1 2vdv 1 1 gkr 1 1 gkx 1 1 gli 1 1 gpq 1 1 gmw",
  "1 1 gnc 1 1 go8 1 1 gpu 1 1 gs6 1 1 gsw 1 1 gur 1 1 gv7 1 1 gw4 1 1 gw4 1 1 gwp 1 1 gx7 1 1",
  "gxf 1 1 gxu 1 1 h7a 1 1 gzq 1 1 h7b 1 1 h1t 1 1 h2s 1 1 g7b 1 1 hke 1 1 hce 1 1 hdg 1 1 he5 1",
  "1 haj 1 1 hf6 1 1 hf5 1 1 hik 1 1 2x9g 1 1 hki 1 1 hkn 1 1 hl2 1 1 hlm 1 1 hlu 1 1 hnm 1 1",
  "2xm0 1 1 2xnu 1 1 hrg 1 1 hsr 1 1 ht3 1 1 hqw 1 1 huu 1 1 aum 1 1 av0 1 1 hzc 1 1 i0u 1 1 i0u",
  "1 1 2y88 1 1 i4j 1 1 i54 1 1 i5j 1 1 i5v 1 1 2yhk 1 1 i67 1 1 i6e 1 1 itv 1 1 i76 1 1 ayp 1 1",
  "i8w 1 1 i9a 1 1 ibk 1 1 ia5 1 1 2z1g 1 1 if7 1 1 2z1i 1 1 ige 1 1 igb 1 1 igs 1 0 1 ijl 1 1",
  "b3j 1 1 ikd 1 1 ilk 1 1 im5 1 1 ind 1 1 b4y 1 1 2zr7 1 1 b5o 1 1 ipc 1 1 ipf 1 1 ipi 1 1 iq2",
  "1 1 3pg2 1 1 iri 1 1 3035 1 1 3035 1 1 poh 1 1 isi 1 1 isi 1 1 b7r 1 1 335k 1 1 3cgq 1 1 iua",
  "1 1 iuj 1 1 b8j 1 1 ivu 1 1 ix9 1 1 ixj 1 1 iyh 1 1 j29 1 1 bay 1 1 ba4 1 1 j2s 1 1 30t0 1 1",
  "j47 1 1 j7s 1 1 j7w 1 1 j7y 1 1 j7w 1 1 j96 1 1 j9q 1 1 jaq 1 1 jac 1 1 jan 1 1 jby 1 1 jci 1",
  "1 jcm 1 1 jdc 1 1 jdn 1 1 jfh 1 1 jht 1 1 jis 1 1 jm8 1 1 31n0 1 1 jlp 1 1 jjw 1 1 jmw 1 1",
  "jnn 1 1 jqc 1 1 31td 1 1 js2 1 1 jph 1 1 jop 1 1 bhq 1 1 ju1 1 1 jum 1 1 jvh 1 1 juf 1 1 bjg",
  "1 1 k0f 1 1 k18 1 1 32mi 1 1 k4j 1 1 kc8 1 1 k7d 1 1 bo9 1 1 k9d 1 1 bns 1 1 bms 1 1 g42 1 1",
  "g45 1 1 kcg 1 1 k9o 1 1 pf1 1 1 deh 1 1 kd3 1 1 kd7 1 1 kdd 1 1 kf2 1 1 ker 1 1 33cz 1 1 bpl",
  "1 1 kje 1 1 kg5 1 1 klu 1 1 kn9 1 1 33hp 1 1 kni 1 1 kkf 1 1 kr8 1 1 brx 1 1 ksi 1 1 kv7 1 1",
  "kx6 1 1 l2g 1 1 33xf 1 1 l3v 1 1 bvc 1 1 l5t 1 1 34br 1 1 l78 1 1 bwu 1 1 l82 1 1 l9b 1 0 1",
  "la2 1 1 34p9 1 1 2yvf 1 1 34sa 1 1 le6 1 1 354s 1 1 lhb 1 1 lhp 1 1 lev 1 1 ljq 1 1 lku 1 1",
  "lmf 1 1 lkx 1 1 lm1 1 1 lmg 1 1 lmt 1 1 357i 1 1 lkk 1 1 lrj 1 1 lta 1 1 c37 1 1 lvv 1 1 lvr",
  "1 1 35jl 1 1 lq1 1 1 m0e 1 1 35ni 1 1 35ou 1 1 m2u 1 1 m61 1 1 m5a 1 1 m57 1 1 c5y 1 1 m6i 1",
  "1 m7x 1 1 m7r 1 1 m99 1 1 2u5h 1 1 mdh 1 1 368z 1 1 mfw 1 1 36i3 1 1 mjs 1 1 mk5 1 1 mkw 1 1",
  "36yw 1 1 mm8 1 1 mmt 1 1 3779 1 1 37dg 1 1 mt6 1 1 mtn 1 1 cdo 1 1 mud 1 1 ce0 1 1 ce0 1 1",
  "myv 1 1 mzg 1 1 n01 1 1 n0l 1 1 n2i 1 1 cgr 1 1 n50 1 1 386u 1 1 n5q 1 1 389e 1 1 n74 1 1",
  "2zrz 1 1 nbk 1 1 38v5 1 1 38vs 1 1 38zo 1 1 cn0 1 1 cnc 1 1 nhw 1 1 394j 1 1 394i 1 1 395l 1",
  "1 396b 1 0 1 nj2 1 1 nj3 1 1 nka 1 1 cop 1 1 nm3 1 1 cp2 1 1 cra 1 1 39r1 1 1 nri 1 1 nt8 1 1",
  "nv0 1 1 ctf 1 1 3a5i 1 1 nyu 1 1 3a8q 1 1 3a9x 1 1 o0f 1 1 o2z 1 1 cvj 1 1 o5c 1 1 o5m 1 1",
  "o5r 1 1 3at8 1 1 3b1j 1 1 3b1j 1 1 oa6 1 1 d1e 1 1 3b8r 1 1 og6 1 1 og9 1 1 d2f 1 1 3beo 1 1",
  "onm 1 1 d5s 1 1 oo8 1 1 oo3 1 1 oow 1 1 3c06 1 1 orn 1 1 d8h 1 1 ouf 1 1 ow2 1 1 oxx 1 1 d9w",
  "1 1 3ciw 1 1 3cjr 1 1 dax 1 1 3cnt 1 1 p6i 1 1 3cqm 1 1 p79 1 1 pa2 1 1 pad 1 1 3d22 1 1 3d43",
  "1 1 pcw 1 1 3d7s 1 1 pdc 1 1 33a7 1 1 ded 1 1 pf6 1 1 phf 1 1 dfv 1 1 pj2 1 1 hx1 1 1 3dlz 1",
  "1 3dmd 1 1 33bn 1 1 33bw 1 1 poh 1 1 pok 1 1 sda 1 1 dij 1 1 psh 1 1 psb 1 1 pst 1 1 gc3 1 1",
  "ptd 1 1 ptf 1 1 ptp 1 1 puu 1 1 3ebg 1 1 put 1 1 pwd 1 1 pyb 1 1 q0d 1 1 pwj 1 1 q0t 1 1 q1z",
  "1 1 q53 1 1 pxv 1 1 q16 1 1 q18 1 1 q1o 1 1 3eie 1 1 3eqz 1 1 3emt 1 1 dnv 1 1 q9d 1 1 q9f 1",
  "1 qae 1 1 3g0a 1 1 qck 1 1 3f3g 1 1 dp9 1 1 dpd 1 1 3f75 1 1 3ff6 1 1 dpn 1 1 qj4 1 1 qjg 1 1",
  "qjr 1 1 qjt 1 1 qll 1 1 qko 1 1 qoe 1 1 qn6 1 1 qrd 1 1 qp4 1 1 qqz 1 1 qrq 1 1 dsn 1 1 qu9 1",
  "1 qv5 1 1 dtl 1 1 qxs 1 1 qxv 1 1 3giv 1 1 r13 1 1 r1a 1 1 dv9 1 1 r22 1 1 aez 1 1 3gz2 1 1",
  "3h46 1 1 dz2 1 1 dzb 1 1 rds 1 1 rfx 1 1 rka 1 1 rpx 1 1 3hrc 1 1 rsb 1 1 rsx 1 1 rvf 1 1 rxz",
  "1 1 3i9b 1 1 2upw 1 1 s0b 1 1 rzw 1 1 s1c 1 1 2uvy 1 1 s7o 1 1 sag 1 1 3jki 1 1 3jl9 1 1 sk4",
  "1 1 smp 1 1 snl 1 1 3ju6 1 1 snv 1 1 svs 1 0 1 t07 1 1 sxo 1 1 t89 1 1 t91 1 1 3ksa 1 1 tjf 1",
  "1 ej9 1 1 tkn 1 1 3l2v 1 1 eli 1 1 ts3 1 1 iia 1 1 tur 1 1 3ltx 1 1 3lzu 1 1 epa 1 1 epi 1 1",
  "u00 1 1 3mdm 1 1 er6 1 1 3mhi 1 1 u17 1 1 u17 1 1 u21 1 1 3mpi 1 1 u76 1 1 eur 1 1 u95 1 1",
  "ucn 1 1 ude 1 1 uf2 1 1 ez2 1 1 3nsg 1 1 umq 1 1 uv4 1 1 v0d 1 1 f66 1 1 f71 1 1 v3b 1 1 3owe",
  "1 1 f7c 1 1 3oxx 1 1 3p5a 1 1 3p8x 1 1 vcr 1 1 f9y 1 1 veh 1 1 vem 1 1 vet 1 1 vf3 1 1 vfa 1",
  "1 vgb 1 1 3pxc"]

/-- The decompositions. -/
def decompositions : List DecompositionRun :=
  let numbers := tableNumbers decompositionLines
  decompositionRuns numbers.length 0 numbers

/-- Reads triples: the gap since the last composed character, then its two parts. -/
def compositionPairs (last : Nat) : List Nat → List ((Nat × Nat) × Nat)
  | gap :: a :: b :: rest => ((a, b), last + gap) :: compositionPairs (last + gap) rest
  | _ => []

/-- The pairs that compose, with what they compose to. -/
def compositions : List ((Nat × Nat) × Nat) := compositionPairs 0 (tableNumbers [
  "5c 1t lc 1 1t ld 1 1t le 1 1t lf 1 1t lk 1 1t lm 2 1v mf 1 1x lc 1 1x ld 1 1x le 1 1x lk 1 21",
  "lc 1 21 ld 1 21 le 1 21 lk 2 26 lf 1 27 lc 1 27 ld 1 27 le 1 27 lf 1 27 lk 3 2d lc 1 2d ld 1",
  "2d le 1 2d lk 1 2h ld 3 2p lc 1 2p ld 1 2p le 1 2p lf 1 2p lk 1 2p lm 2 2r mf 1 2t lc 1 2t ld",
  "1 2t le 1 2t lk 1 2x lc 1 2x ld 1 2x le 1 2x lk 2 32 lf 1 33 lc 1 33 ld 1 33 le 1 33 lf 1 33",
  "lk 3 39 lc 1 39 ld 1 39 le 1 39 lk 1 3d ld 2 3d lk 1 1t lg 1 2p lg 1 1t li 1 2p li 1 1t mg 1",
  "2p mg 1 1v ld 1 2r ld 1 1v le 1 2r le 1 1v lj 1 2r lj 1 1v lo 1 2r lo 1 1w lo 1 2s lo 3 1x lg",
  "1 2t lg 1 1x li 1 2t li 1 1x lj 1 2t lj 1 1x mg 1 2t mg 1 1x lo 1 2t lo 1 1z le 1 2v le 1 1z",
  "li 1 2v li 1 1z lj 1 2v lj 1 1z mf 1 2v mf 1 20 le 1 2w le 3 21 lf 1 2x lf 1 21 lg 1 2x lg 1",
  "21 li 1 2x li 1 21 mg 1 2x mg 1 21 lj 4 22 le 1 2y le 1 23 mf 1 2z mf 2 24 ld 1 30 ld 1 24 mf",
  "1 30 mf 1 24 lo 1 30 lo 5 26 ld 1 32 ld 1 26 mf 1 32 mf 1 26 lo 1 32 lo 4 27 lg 1 33 lg 1 27",
  "li 1 33 li 1 27 ln 1 33 ln 3 2a ld 1 36 ld 1 2a mf 1 36 mf 1 2a lo 1 36 lo 1 2b ld 1 37 ld 1",
  "2b le 1 37 le 1 2b mf 1 37 mf 1 2b lo 1 37 lo 1 2c mf 1 38 mf 1 2c lo 1 38 lo 3 2d lf 1 39 lf",
  "1 2d lg 1 39 lg 1 2d li 1 39 li 1 2d lm 1 39 lm 1 2d ln 1 39 ln 1 2d mg 1 39 mg 1 2f le 1 3b",
  "le 1 2h le 1 3d le 1 2h lk 1 2i ld 1 3e ld 1 2i lj 1 3e lj 1 2i lo 1 3e lo y 27 m3 1 33 m3 e",
  "2d m3 1 39 m3 t 1t lo 1 2p lo 1 21 lo 1 2x lo 1 27 lo 1 33 lo 1 2d lo 1 39 lo 1 64 lg 1 70 lg",
  "1 64 ld 1 70 ld 1 64 lo 1 70 lo 1 64 lc 1 70 lc 2 5g lg 1 6c lg 1 fa lg 1 fb lg 1 5i lg 1 6e",
  "lg 3 1z lo 1 2v lo 1 23 lo 1 2z lo 1 27 mg 1 33 mg 1 dm lg 1 dn lg 1 c7 lo 1 ia lo 1 2y lo 4",
  "1z ld 1 2v ld 3 26 lc 1 32 lc 1 5h ld 1 6d ld 1 5i ld 1 6e ld 1 60 ld 1 6w ld 1 1t lr 1 2p lr",
  "1 1t lt 1 2p lt 1 1x lr 1 2t lr 1 1x lt 1 2t lt 1 21 lr 1 2x lr 1 21 lt 1 2x lt 1 27 lr 1 33",
  "lr 1 27 lt 1 33 lt 1 2a lr 1 36 lr 1 2a lt 1 36 lt 1 2d lr 1 39 lr 1 2d lt 1 39 lt 1 2b me 1",
  "37 me 1 2c me 1 38 me 3 20 lo 1 2w lo 7 1t lj 1 2p lj 1 1x mf 1 2t mf 1 5y lg 1 6u lg 1 5x lg",
  "1 6t lg 1 27 lj 1 33 lj 1 fi lg 1 fj lg 1 2h lg 1 3d lg 9f pd ld 2 ph ld 1 pj ld 1 pl ld 2 pr",
  "ld 2 px ld 1 q1 ld 1 qy ld q pl lk 1 px lk 1 q9 ld 1 qd ld 1 qf ld 1 qh ld 1 qz ld q qh lk 1",
  "qt lk 1 qn ld 1 qt ld 1 qx ld 5 r6 ld 1 r6 lk 18 t1 lc 1 t1 lk 2 sz ld 4 sm lk 5 t6 ld 1 t4",
  "lc 1 tf li b t4 li w u0 li n tx lc 1 tx lk 2 tv ld 4 uu lk 5 u2 ld 1 u0 lc 1 ub li o vo lr 1",
  "vp lr 22 t2 li 1 ty li e sw li 1 ts li 1 sw lk 1 ts lk 3 t1 li 1 tx li 3 yg lk 1 yh lk 1 t2",
  "lk 1 ty lk 1 t3 lk 1 tz lk 3 t4 lg 1 u0 lg 1 t4 lk 1 u0 lk 1 ta lk 1 u6 lk 3 yw lk 1 yx lk 1",
  "tp lk 1 ul lk 1 tf lg 1 ub lg 1 tf lk 1 ub lk 1 tf ln 1 ub ln 1 tj lk 1 uf lk 3 tn lk 1 uj lk",
  "89 17r 18z 1 17r 190 1 18o 190 1 17r 191 1 18q 190 4a 1cl 190 2 1c1 190 h 1ci 190 gm 1t4 1to",
  "8 1tc 1to 3 1tf 1to 47 1xj 1xa 1 1xj 1xz ak 287 28m 3 287 27y 1 287 28n 20 2aa 2c7 1i 2bq 2bi",
  "1 2br 2bi 1 2bq 2c7 3g 2fa 2fq 3c 2in 2j9 7 2iu 2j9 1 2iu 2ja 2 2iu 2iq 1 2iy 2j9 3j 2me 2m6",
  "1 2mf 2m6 1 2me 2mv 3y 2qh 2q2 2 2qh 2q7 1 2qk 2q2 1 2qh 2qn g8 36t 372 25c 5c5 5dh 2 5c7 5dh",
  "2 5c9 5dh 2 5cb 5dh 2 5cd 5dh 4 5ch 5dh 15 5dm 5dh 2 5do 5dh 3 5dq 5dh 1 5dr 5dh 2 5du 5dh jh",
  "1t md 1 2p md 1 1u lj 1 2q lj 1 1u mb 1 2q mb 1 1u mp 1 2q mp 1 5j ld 1 6f ld 1 1w lj 1 2s lj",
  "1 1w mb 1 2s mb 1 1w mp 1 2s mp 1 1w mf 1 2s mf 1 1w ml 1 2s ml 1 7m lc 1 7n lc 1 7m ld 1 7n",
  "ld 1 1x ml 1 2t ml 1 1x mo 1 2t mo 1 fc li 1 fd li 1 1y lj 1 2u lj 1 1z lg 1 2v lg 1 20 lj 1",
  "2w lj 1 20 mb 1 2w mb 1 20 lk 1 2w lk 1 20 mf 1 2w mf 1 20 mm 1 2w mm 1 21 mo 1 2x mo 1 5r ld",
  "1 6n ld 1 23 ld 1 2z ld 1 23 mb 1 2z mb 1 23 mp 1 2z mp 1 24 mb 1 30 mb 1 5yu lg 1 5yv lg 1",
  "24 mp 1 30 mp 1 24 ml 1 30 ml 1 25 ld 1 31 ld 1 25 lj 1 31 lj 1 25 mb 1 31 mb 1 26 lj 1 32 lj",
  "1 26 mb 1 32 mb 1 26 mp 1 32 mp 1 26 ml 1 32 ml 1 5x ld 1 6t ld 1 5x lk 1 6t lk 1 98 lc 1 99",
  "lc 1 98 ld 1 99 ld 1 28 ld 1 34 ld 1 28 lj 1 34 lj 1 2a lj 1 36 lj 1 2a mb 1 36 mb 1 5zu lg 1",
  "5zv lg 1 2a mp 1 36 mp 1 2b lj 1 37 lj 1 2b mb 1 37 mb 1 9m lj 1 9n lj 1 9s lj 1 9t lj 1 602",
  "lj 1 603 lj 1 2c lj 1 38 lj 1 2c mb 1 38 mb 1 2c mp 1 38 mp 1 2c ml 1 38 ml 1 2d mc 1 39 mc 1",
  "2d mo 1 39 mo 1 2d ml 1 39 ml 1 a0 ld 1 a1 ld 1 a2 lk 1 a3 lk 1 2e lf 1 3a lf 1 2e mb 1 3a mb",
  "1 2f lc 1 3b lc 1 2f ld 1 3b ld 1 2f lk 1 3b lk 1 2f lj 1 3b lj 1 2f mb 1 3b mb 1 2g lj 1 3c",
  "lj 1 2g lk 1 3c lk 1 2h lj 1 3d lj 1 2i le 1 3e le 1 2i mb 1 3e mb 1 2i mp 1 3e mp 1 2w mp 1",
  "38 lk 1 3b lm 1 3d lm 2 an lj 5 1t mb 1 2p mb 1 1t ll 1 2p ll 1 5e ld 1 6a ld 1 5e lc 1 6a lc",
  "1 5e ll 1 6a ll 1 5e lf 1 6a lf 1 61s le 1 61t le 1 76 ld 1 77 ld 1 76 lc 1 77 lc 1 76 ll 1",
  "77 ll 1 76 lf 1 77 lf 1 61s li 1 61t li 1 1x mb 1 2t mb 1 1x ll 1 2t ll 1 1x lf 1 2t lf 1 5m",
  "ld 1 6i ld 1 5m lc 1 6i lc 1 5m ll 1 6i ll 1 5m lf 1 6i lf 1 62g le 1 62h le 1 21 ll 1 2x ll",
  "1 21 mb 1 2x mb 1 27 mb 1 33 mb 1 27 ll 1 33 ll 1 5w ld 1 6s ld 1 5w lc 1 6s lc 1 5w ll 1 6s",
  "ll 1 5w lf 1 6s lf 1 630 le 1 631 le 1 bk ld 1 bl ld 1 bk lc 1 bl lc 1 bk ll 1 bl ll 1 bk lf",
  "1 bl lf 1 bk mb 1 bl mb 1 2d mb 1 39 mb 1 2d ll 1 39 ll 1 bz ld 1 c0 ld 1 bz lc 1 c0 lc 1 bz",
  "ll 1 c0 ll 1 bz lf 1 c0 lf 1 bz mb 1 c0 mb 1 2h lc 1 3d lc 1 2h mb 1 3d mb 1 2h ll 1 3d ll 1",
  "2h lf 1 3d lf 7 q9 lv 1 q9 lw 1 64g lc 1 64h lc 1 64g ld 1 64h ld 1 64g n6 1 64h n6 1 pd lv 1",
  "pd lw 1 64o lc 1 64p lc 1 64o ld 1 64p ld 1 64o n6 1 64p n6 1 qd lv 1 qd lw 1 64w lc 1 64x lc",
  "1 64w ld 1 64x ld 3 ph lv 1 ph lw 1 654 lc 1 655 lc 1 654 ld 1 655 ld 3 qf lv 1 qf lw 1 65c",
  "lc 1 65d lc 1 65c ld 1 65d ld 1 65c n6 1 65d n6 1 pj lv 1 pj lw 1 65k lc 1 65l lc 1 65k ld 1",
  "65l ld 1 65k n6 1 65l n6 1 qh lv 1 qh lw 1 65s lc 1 65t lc 1 65s ld 1 65t ld 1 65s n6 1 65t",
  "n6 1 pl lv 1 pl lw 1 660 lc 1 661 lc 1 660 ld 1 661 ld 1 660 n6 1 661 n6 1 qn lv 1 qn lw 1",
  "668 lc 1 669 lc 1 668 ld 1 669 ld 3 pr lv 1 pr lw 1 66g lc 1 66h lc 1 66g ld 1 66h ld 3 qt lv",
  "1 qt lw 1 66o lc 1 66p lc 1 66o ld 1 66p ld 1 66o n6 1 66p n6 2 px lw 2 66x lc 2 66x ld 2 66x",
  "n6 1 qx lv 1 qx lw 1 674 lc 1 675 lc 1 674 ld 1 675 ld 1 674 n6 1 675 n6 1 q1 lv 1 q1 lw 1",
  "67c lc 1 67d lc 1 67c ld 1 67d ld 1 67c n6 1 67d n6 1 q9 lc 2 qd lc 2 qf lc 2 qh lc 2 qn lc 2",
  "qt lc 2 qx lc 4 64g n9 1 64h n9 1 64i n9 1 64j n9 1 64k n9 1 64l n9 1 64m n9 1 64n n9 1 64o",
  "n9 1 64p n9 1 64q n9 1 64r n9 1 64s n9 1 64t n9 1 64u n9 1 64v n9 1 65c n9 1 65d n9 1 65e n9",
  "1 65f n9 1 65g n9 1 65h n9 1 65i n9 1 65j n9 1 65k n9 1 65l n9 1 65m n9 1 65n n9 1 65o n9 1",
  "65p n9 1 65q n9 1 65r n9 1 674 n9 1 675 n9 1 676 n9 1 677 n9 1 678 n9 1 679 n9 1 67a n9 1 67b",
  "n9 1 67c n9 1 67d n9 1 67e n9 1 67f n9 1 67g n9 1 67h n9 1 67i n9 1 67j n9 1 q9 li 1 q9 lg 1",
  "67k n9 1 q9 n9 1 q4 n9 2 q9 n6 1 69i n9 1 pd li 1 pd lg 1 pd lc 2 pd n9 6 67o n9 1 qf n9 1 q6",
  "n9 2 qf n6 1 69y n9 1 ph lc 2 pj lc 2 pj n9 4 qh li 1 qh lg 1 qy lc 4 qh n6 1 qy n6 1 pl li 1",
  "pl lg 1 pl lc 6 qt li 1 qt lg 1 qz lc 2 qp lv 1 qp lw 1 qt n6 1 qz n6 1 px li 1 px lg 1 px lc",
  "2 pt lw 6 67w n9 1 qx n9 1 r2 n9 2 qx n6 1 6ba n9 1 pr lc 2 q1 lc 2 q1 n9 380 9jf 9ll 2 9jh",
  "9ll 2 9jj 9ll 2 9jl 9ll 2 9jn 9ll 2 9jp 9ll 2 9jr 9ll 2 9jt 9ll 2 9jv 9ll 2 9jx 9ll 2 9jz 9ll",
  "2 9k1 9ll 3 9k4 9ll 2 9k6 9ll 2 9k8 9ll 7 9kf 9ll 1 9kf 9lm 2 9ki 9ll 1 9ki 9lm 2 9kl 9ll 1",
  "9kl 9lm 2 9ko 9ll 1 9ko 9lm 2 9kr 9ll 1 9kr 9lm n 9ja 9ll a 9lp 9ll e 9m3 9ll 2 9m5 9ll 2 9m7",
  "9ll 2 9m9 9ll 2 9mb 9ll 2 9md 9ll 2 9mf 9ll 2 9mh 9ll 2 9mj 9ll 2 9ml 9ll 2 9mn 9ll 2 9mp 9ll",
  "3 9ms 9ll 2 9mu 9ll 2 9mw 9ll 7 9n3 9ll 1 9n3 9lm 2 9n6 9ll 1 9n6 9lm 2 9n9 9ll 1 9n9 9lm 2",
  "9nc 9ll 1 9nc 9lm 2 9nf 9ll 1 9nf 9lm n 9ly 9ll 3 9nz 9ll 1 9o0 9ll 1 9o1 9ll 1 9o2 9ll 4 9od",
  "9ll 1864 1huh 1hve 2 1huj 1hve f 1hut 1hve 3n 1hyp 1hyf 1 1hyq 1hyf f0 1idj 1ida 1 1idj 1idz",
  "a7 1int 1inu 1 1int 1ink 2 1int 1inx 70 1iuw 1iun 1 1iux 1iun ot 1jjp 1jjk"])

/-- Reads triples: the gap since the last character, how many more, and their class. -/
def classRuns (last : Nat) : List Nat → List ((Nat × Nat) × Nat)
  | gap :: more :: c :: rest =>
    ((last + gap, last + gap + more), c) :: classRuns (last + gap + more) rest
  | _ => []

/-- The ranges of characters with a combining class other than zero, and the class. -/
def combiningClasses : List ((Nat × Nat) × Nat) := classRuns 0 (tableNumbers [
  "lc k 6e 1 0 6g 1 3 64 1 0 6g 1 0 60 1 4 64 1 1 5m 1 3 64 1 1 5m 1 a 64 1 4 1 1 3 64 1 7 6e 1",
  "0 6o 1 0 6e 1 2 64 1 2 6e 1 1 64 2 2 6e 1 3 64 1 0 6e 1 0 6g 1 1 64 1 0 6e 1 0 6h 1 1 6i 1 0",
  "6h 1 1 6i 1 0 6h 1 c 6e 7o 4 6e 7e 0 64 1 3 6e 1 0 64 1 2 6e 1 0 66 1 0 64 1 5 6e 1 5 64 1 1",
  "6e 1 0 64 1 1 6e 1 0 66 1 0 6c 1 0 6e 1 0 a 1 0 b 1 0 c 1 0 d 1 0 e 1 0 f 1 0 g 1 0 h 1 0 i 1",
  "1 j 1 0 k 1 0 l 1 0 m 2 0 n 2 0 o 1 0 p 2 0 6e 1 0 64 2 0 i 21 7 6e 1 0 u 1 0 v 1 0 w 1d 0 r",
  "1 0 s 1 0 t 1 0 u 1 0 v 1 0 w 1 0 x 1 0 y 1 1 6e 1 1 64 1 4 6e 1 0 64 1 1 6e 1 0 64 h 0 z 2u",
  "6 6e 3 3 6e 1 0 64 1 0 6e 3 1 6e 2 0 64 1 1 6e 1 0 64 10 0 10 v 0 6e 1 0 64 1 1 6e 1 0 64 1 1",
  "6e 1 2 64 1 0 6e 1 1 64 1 0 6e 1 0 64 1 2 6e 1 0 64 1 0 6e 1 0 64 1 0 6e 1 0 64 1 0 6e 1 0 64",
  "1 1 6e 4h 6 6e 1 0 64 1 0 6e a 0 64 p 3 6e 2 8 6e 2 2 6e 2 4 6e 18 2 64 1p 0 6e 1 2 64 1 3 6e",
  "17 4 6e 1 4 64 1 d 6e 2 0 64 1 1 6e 1 0 64 1 1 6e 1 0 64 1 2 6e 1 2 64 1 0 r 1 0 s 1 0 t 1 2",
  "6e 1 0 64 1 1 6e 1 1 64 1 4 6e 1p 0 7 h 0 9 4 0 6e 1 0 64 1 1 6e 2w 0 7 h 0 9 1d 0 6e 1q 0 7",
  "h 0 9 33 0 7 h 0 9 33 0 7 h 0 9 3k 0 9 33 0 7 h 0 9 8 0 2c 1 0 2j 2u 0 7 h 0 9 32 1 9 h 0 9",
  "3h 0 9 32 1 2v 1 0 9 e 3 2z 31 1 3a 1 0 9 e 3 3e 25 1 64 s 0 64 2 0 64 2 0 60 1k 0 3l 1 0 3m",
  "2 0 3o 6 3 3m 3 0 3m 2 1 6e 1 0 9 2 1 6e 1r 0 64 35 0 7 2 1 9 2b 0 64 k0 2 6e qd 1 9 v 0 9 4e",
  "0 9 b 0 6e 5o 0 6c 40 0 66 1 0 6e 1 0 64 64 0 6e 1 0 64 20 0 9 l 7 6e 3 0 64 1d 4 6e 1 5 64 1",
  "1 6e 1 0 64 2 1 64 1 1 6e 1 1 64 1 4 6e 1 0 64 1 3 6e 2u 0 7 g 0 9 13 0 6e 1 0 64 1 6 6e 1j 1",
  "9 1n 0 7 c 1 9 1w 0 7 49 2 6e 2 0 1 1 4 64 1 1 6e 1 3 64 1 0 6e 2 6 1 5 0 64 7 0 6e 4 1 6e 5j",
  "1 6e 1 0 64 1 6 6e 1 0 64 1 1 6e 1 0 6i 1 0 5y 1 0 64 1 0 5m 1 10 6e 1 0 6g 1 1 6c 1 0 64 1 0",
  "62 1 0 6e 1 0 6h 1 0 64 1 0 6e 1 0 64 k1 1 6e 1 1 1 1 3 6e 1 2 1 1 1 6e 5 0 6e 4 1 1 1 0 6e 1",
  "0 64 1 0 6e 1 1 1 1 3 64 1 0 6e 2db 2 6e 3y 0 9 2p v 6e ff 0 62 1 0 6c 1 0 6g 1 0 66 1 1 68",
  "2y 1 8 n9x 0 6e 5 9 6e x 1 6e 29 1 6e 7p 0 9 12 0 9 48 0 9 s h 6e 1m 2 64 12 0 9 2o 0 7 d 0 9",
  "6o 0 6e 2 1 6e 1 0 64 3 1 6e 6 1 6e 2 0 6e 1h 0 9 6v 0 9 fn5 0 q le 6 6e 1 6 64 1 1 6e r2 0",
  "64 6b 0 64 46 4 6e 1ar 0 64 2 0 6e 15 0 6e 1 0 1 1 0 64 5 0 9 4m 0 6e 1 0 64 fy 3 6e as 1 6e",
  "4a 1 64 1 2 6e 1 0 64 1 0 6e 1 3 64 1e 0 6e 1 0 64 1 0 6e 1 0 64 5d 0 9 16 0 9 f 0 9 1m 0 9 1",
  "0 7 1y 2 6e 1d 1 9 1r 0 7 25 0 9 a 0 7 2z 0 9 1 0 7 4z 0 7 1 0 9 29 1 7 h 0 9 p 6 6e 4 4 6e",
  "5q 0 9 4 0 7 o 0 6e 2s 0 9 1 0 7 70 0 9 1 0 7 3j 0 9 3b 0 9 1 0 7 38 0 9 7i 0 9 1 0 7 77 1 9",
  "5 0 7 4d 0 9 2c 0 9 j 0 9 2a 0 9 bq 0 9 77 0 7 2 1 9 2a 0 9 fa1 4 1 1o 6 6e xm 1 6 f59 0 1",
  "43r 1 60 1 2 1 4 0 6a 1 4 60 9 7 64 3 4 6e 1 1 64 v 3 6e 45 2 6e 2po 6 6e 2 g 6e 3 6 6e 2 1",
  "6e 2 4 6e 7a 6 6e ag 0 6e 1q 3 6e 15t 6 64 32 5 6e 1 0 7"])

end ChainLint.Text
