import CallChain.Text.Ranges

/-!
# One spelling for each identifier

Two identifiers are the same when they agree after every character has been replaced by its
plainest spelling (a ligature by its letters, a full-width letter by the usual one), marks over a
letter have been put into their fixed order, and letters and marks have been joined into one
character wherever one exists.  `compatible` brings a list of characters into that form.

The tables hold the characters that can occur in identifiers.  Syllables of Hangul are taken
apart and put together by arithmetic.
-/

namespace CallChain.Text

/-- Rows of numbers, the first numbers of the rows in increasing order. -/
abbrev Rows := Array (List Nat)

/-- The numbers of one row, joined by hyphens. -/
def rowNumbers : List Char → Nat → List Nat
  | [], n => [n]
  | '-' :: rest, n => n :: rowNumbers rest 0
  | c :: rest, n => rowNumbers rest (n * 36 + Ranges.digit c)

/-- Cuts a table at its blanks. -/
def rowTexts : List Char → List Char → Array (List Char) → Array (List Char)
  | [], row, out => out.push row.reverse
  | ' ' :: rest, row, out => rowTexts rest [] (out.push row.reverse)
  | c :: rest, row, out => rowTexts rest (c :: row) out

/-- Reads a table in which the first number of a row is the gap from the row before. -/
def rowsOfGaps (text : String) : Rows :=
  ((rowTexts text.toList [] #[]).foldl (fun (acc : Rows × Nat) row =>
    match rowNumbers row 0 with
    | gap :: others => (acc.1.push ((acc.2 + gap) :: others), acc.2 + gap)
    | [] => acc) (#[], 0)).1

/-- How many rows start with at most `key`, searched for between `low` and `high`. -/
def rowRank (rows : Rows) (key low high : Nat) : Nat :=
  if h : low < high then
    let middle := (low + high) / 2
    if ((rows[middle]?.bind List.head?).getD 0) ≤ key then rowRank rows key (middle + 1) high
    else rowRank rows key low middle
  else low
termination_by high - low

/-- The last row that starts with at most `key`. -/
def rowBelow? (rows : Rows) (key : Nat) : Option (List Nat) :=
  match rowRank rows key 0 rows.size with
  | 0 => none
  | n + 1 => rows[n]?

/-- Characters with a plainer spelling: the character, then the spelling. -/
def plainSpellings : Rows := rowsOfGaps (String.join [
    "4q-2p b-qk 5-33 6-1t-lc 1-1t-ld 1-1t-le 1-1t-lf 1-1t-lk 1-1t-lm 2-1v-mf 1-1x-lc 1-1x-ld ",
    "1-1x-le 1-1x-lk 1-21-lc 1-21-ld 1-21-le 1-21-lk 2-26-lf 1-27-lc 1-27-ld 1-27-le 1-27-lf ",
    "1-27-lk 3-2d-lc 1-2d-ld 1-2d-le 1-2d-lk 1-2h-ld 3-2p-lc 1-2p-ld 1-2p-le 1-2p-lf 1-2p-lk ",
    "1-2p-lm 2-2r-mf 1-2t-lc 1-2t-ld 1-2t-le 1-2t-lk 1-2x-lc 1-2x-ld 1-2x-le 1-2x-lk 2-32-lf ",
    "1-33-lc 1-33-ld 1-33-le 1-33-lf 1-33-lk 3-39-lc 1-39-ld 1-39-le 1-39-lk 1-3d-ld 2-3d-lk ",
    "1-1t-lg 1-2p-lg 1-1t-li 1-2p-li 1-1t-mg 1-2p-mg 1-1v-ld 1-2r-ld 1-1v-le 1-2r-le 1-1v-lj ",
    "1-2r-lj 1-1v-lo 1-2r-lo 1-1w-lo 1-2s-lo 3-1x-lg 1-2t-lg 1-1x-li 1-2t-li 1-1x-lj 1-2t-lj ",
    "1-1x-mg 1-2t-mg 1-1x-lo 1-2t-lo 1-1z-le 1-2v-le 1-1z-li 1-2v-li 1-1z-lj 1-2v-lj 1-1z-mf ",
    "1-2v-mf 1-20-le 1-2w-le 3-21-lf 1-2x-lf 1-21-lg 1-2x-lg 1-21-li 1-2x-li 1-21-mg 1-2x-mg ",
    "1-21-lj 2-21-22 1-2x-2y 1-22-le 1-2y-le 1-23-mf 1-2z-mf 2-24-ld 1-30-ld 1-24-mf 1-30-mf ",
    "1-24-lo 1-30-lo 1-24-53 1-30-53 3-26-ld 1-32-ld 1-26-mf 1-32-mf 1-26-lo 1-32-lo 1-jg-32 ",
    "3-27-lg 1-33-lg 1-27-li 1-33-li 1-27-ln 1-33-ln 3-2a-ld 1-36-ld 1-2a-mf 1-36-mf 1-2a-lo ",
    "1-36-lo 1-2b-ld 1-37-ld 1-2b-le 1-37-le 1-2b-mf 1-37-mf 1-2b-lo 1-37-lo 1-2c-mf 1-38-mf ",
    "1-2c-lo 1-38-lo 3-2d-lf 1-39-lf 1-2d-lg 1-39-lg 1-2d-li 1-39-li 1-2d-lm 1-39-lm 1-2d-ln ",
    "1-39-ln 1-2d-mg 1-39-mg 1-2f-le 1-3b-le 1-2h-le 1-3d-le 1-2h-lk 1-2i-ld 1-3e-ld 1-2i-lj ",
    "1-3e-lj 1-2i-lo 1-3e-lo 1-37 x-27-m3 1-33-m3 e-2d-m3 1-39-m3 k-1w-2i-lo 1-1w-3e-lo ",
    "1-2s-3e-lo 1-24-22 1-24-2y 1-30-2y 1-26-22 1-26-2y 1-32-2y 1-1t-lo 1-2p-lo 1-21-lo 1-2x-lo ",
    "1-27-lo 1-33-lo 1-2d-lo 1-39-lo 1-2d-lk-lg 1-39-lk-lg 1-2d-lk-ld 1-39-lk-ld 1-2d-lk-lo ",
    "1-39-lk-lo 1-2d-lk-lc 1-39-lk-lc 2-1t-lk-lg 1-2p-lk-lg 1-1t-lj-lg 1-2p-lj-lg 1-5i-lg ",
    "1-6e-lg 3-1z-lo 1-2v-lo 1-23-lo 1-2z-lo 1-27-mg 1-33-mg 1-27-mg-lg 1-33-mg-lg 1-c7-lo ",
    "1-ia-lo 1-2y-lo 1-1w-2i 1-1w-3e 1-2s-3e 1-1z-ld 1-2v-ld 3-26-lc 1-32-lc 1-1t-lm-ld ",
    "1-2p-lm-ld 1-5i-ld 1-6e-ld 1-60-ld 1-6w-ld 1-1t-lr 1-2p-lr 1-1t-lt 1-2p-lt 1-1x-lr 1-2t-lr ",
    "1-1x-lt 1-2t-lt 1-21-lr 1-2x-lr 1-21-lt 1-2x-lt 1-27-lr 1-33-lr 1-27-lt 1-33-lt 1-2a-lr ",
    "1-36-lr 1-2a-lt 1-36-lt 1-2d-lr 1-39-lr 1-2d-lt 1-39-lt 1-2b-me 1-37-me 1-2c-me 1-38-me ",
    "3-20-lo 1-2w-lo 7-1t-lj 1-2p-lj 1-1x-mf 1-2t-mf 1-27-lk-lg 1-33-lk-lg 1-27-lf-lg 1-33-lf-lg ",
    "1-27-lj 1-33-lj 1-27-lj-lg 1-33-lj-lg 1-2h-lg 1-3d-lg 3h-2w 1-h2 1-2y 1-36 1-hl 1-hn 1-ht ",
    "1-3b 1-3d 14-gz 1-30 1-37 1-3c 1-id 2k-lc 1-ld 2-lv 1-lk-ld 1c-jd i-pd-ld 1-53 1-ph-ld ",
    "1-pj-ld 1-pl-ld 2-pr-ld 2-px-ld 1-q1-ld 1-qh-lk-ld q-pl-lk 1-px-lk 1-q9-ld 1-qd-ld 1-qf-ld ",
    "1-qh-ld 1-qt-lk-ld q-qh-lk 1-qt-lk 1-qn-ld 1-qt-ld 1-qx-ld 2-qa 1-qg 1-px 1-px-ld 1-px-lk ",
    "1-qu 1-qo q-qi 1-qp 1-qq 2-pk 1-qd 4-pv 7-t1-lc 1-t1-lk 2-sz-ld 4-sm-lk 5-t6-ld 1-t4-lc ",
    "1-tf-li b-t4-li w-u0-li n-tx-lc 1-tx-lk 2-tv-ld 4-uu-lk 5-u2-ld 1-u0-lc 1-ub-li o-vo-lr ",
    "1-vp-lr 22-t2-li 1-ty-li e-sw-li 1-ts-li 1-sw-lk 1-ts-lk 3-t1-li 1-tx-li 3-yg-lk 1-yh-lk ",
    "1-t2-lk 1-ty-lk 1-t3-lk 1-tz-lk 3-t4-lg 1-u0-lg 1-t4-lk 1-u0-lk 1-ta-lk 1-u6-lk 3-yw-lk ",
    "1-yx-lk 1-tp-lk 1-ul-lk 1-tf-lg 1-ub-lg 1-tf-lk 1-ub-lk 1-tf-ln 1-ub-ln 1-tj-lk 1-uf-lk ",
    "3-tn-lk 1-uj-lk 3y-12d-136 4b-17r-18z 1-17r-190 1-18o-190 1-17r-191 1-18q-190 27-17r-19w ",
    "1-18o-19w 1-1c7-19w 1-18q-19w 20-1cl-190 2-1c1-190 h-1ci-190 gm-1t4-1to 8-1tc-1to 3-1tf-1to ",
    "10-1sl-1to 1-1sm-1to 1-1sn-1to 1-1ss-1to 1-1sx-1to 1-1sy-1to 1-1t7-1to 1-1tb-1to 30-1xj-1xa ",
    "1-1xj-1xz g-1wh-1x8 1-1wi-1x8 2-1wv-1x8 2c-20i-20s 3-20o-20s z-1zq-20s 1-1zr-20s 1-1zw-20s ",
    "3-20b-20s 6i-287-28m 3-287-27y 1-287-28n g-275-27w 1-276-27w 1j-2aa-2c7 1i-2bq-2bi ",
    "1-2br-2bi 1-2bq-2c7 3g-2fa-2fq 3c-2in-2j9 7-2iu-2j9 1-2iu-2ja 2-2iu-2iq 1-2iu-2iq-2j9 ",
    "3j-2me-2m6 1-2mf-2m6 1-2me-2mv 3y-2qh-2q2 2-2qh-2q7 1-2qh-2q7-2q2 1-2qh-2qn 2d-2tp-2sy ",
    "3k-2x9-2wi 15-2wb-2vt 1-2wb-2w1 2u-30i-33r a-30s-33r 5-30x-33r 5-312-33r 5-317-33r ",
    "d-30g-33p a-31t-31u 2-31t-31w 1-33m-328 1-33m-31t-328 1-33n-328 1-33n-31t-328 8-31t-328 ",
    "i-32q-33r a-330-33r 5-335-33r 5-33a-33r 5-33f-33r d-32o-33p 31-36t-372 5y-3bw 1ze-5c5-5dh ",
    "2-5c7-5dh 2-5c9-5dh 2-5cb-5dh 2-5cd-5dh 4-5ch-5dh 15-5dm-5dh 2-5do-5dh 3-5dq-5dh 1-5dr-5dh ",
    "2-5du-5dh dl-1t 1-5i 1-1u 2-1w 1-1x 1-b2 1-1z 1-20 1-21 1-22 1-23 1-24 1-25 1-26 2-27 1-f6 ",
    "1-28 1-2a 1-2c 1-2d 1-2f 1-2p 1-gg 1-gh 1-5qa 1-2q 1-2s 1-2t 1-gp 1-gr 1-gs 1-2v 2-2z 1-31 ",
    "1-97 1-33 1-gk 1-5qu 1-5qv 1-34 1-38 1-39 1-5r1 1-hb 1-3a 1-5r9 1-qa 1-qb 1-qc 1-qu 1-qv ",
    "1-2x 1-36 1-39 1-3a 1-qa 1-qb 1-qp 1-qu 1-qv e-u5 z-gi 1-2r 1-gl 1-6o 1-gs 1-2u 1-gv 1-gx ",
    "1-h1 1-h4 1-h5 1-h6 1-5tn 1-il 1-h9 1-5tx 1-in 1-hd 1-hc 1-he 1-hf 1-hg 1-hh 1-hk 1-hu 1-hv ",
    "1-bv 1-i1 1-i2 1-5r0 1-i3 1-i4 1-3e 1-i8 1-i9 1-ia 1-qg 1t-1t-md 1-2p-md 1-1u-lj 1-2q-lj ",
    "1-1u-mb 1-2q-mb 1-1u-mp 1-2q-mp 1-1v-mf-ld 1-2r-mf-ld 1-1w-lj 1-2s-lj 1-1w-mb 1-2s-mb ",
    "1-1w-mp 1-2s-mp 1-1w-mf 1-2s-mf 1-1w-ml 1-2s-ml 1-1x-lg-lc 1-2t-lg-lc 1-1x-lg-ld 1-2t-lg-ld ",
    "1-1x-ml 1-2t-ml 1-1x-mo 1-2t-mo 1-1x-mf-li 1-2t-mf-li 1-1y-lj 1-2u-lj 1-1z-lg 1-2v-lg ",
    "1-20-lj 1-2w-lj 1-20-mb 1-2w-mb 1-20-lk 1-2w-lk 1-20-mf 1-2w-mf 1-20-mm 1-2w-mm 1-21-mo ",
    "1-2x-mo 1-21-lk-ld 1-2x-lk-ld 1-23-ld 1-2z-ld 1-23-mb 1-2z-mb 1-23-mp 1-2z-mp 1-24-mb ",
    "1-30-mb 1-24-mb-lg 1-30-mb-lg 1-24-mp 1-30-mp 1-24-ml 1-30-ml 1-25-ld 1-31-ld 1-25-lj ",
    "1-31-lj 1-25-mb 1-31-mb 1-26-lj 1-32-lj 1-26-mb 1-32-mb 1-26-mp 1-32-mp 1-26-ml 1-32-ml ",
    "1-27-lf-ld 1-33-lf-ld 1-27-lf-lk 1-33-lf-lk 1-27-lg-lc 1-33-lg-lc 1-27-lg-ld 1-33-lg-ld ",
    "1-28-ld 1-34-ld 1-28-lj 1-34-lj 1-2a-lj 1-36-lj 1-2a-mb 1-36-mb 1-2a-mb-lg 1-36-mb-lg ",
    "1-2a-mp 1-36-mp 1-2b-lj 1-37-lj 1-2b-mb 1-37-mb 1-2b-ld-lj 1-37-ld-lj 1-2b-lo-lj 1-37-lo-lj ",
    "1-2b-mb-lj 1-37-mb-lj 1-2c-lj 1-38-lj 1-2c-mb 1-38-mb 1-2c-mp 1-38-mp 1-2c-ml 1-38-ml ",
    "1-2d-mc 1-39-mc 1-2d-mo 1-39-mo 1-2d-ml 1-39-ml 1-2d-lf-ld 1-39-lf-ld 1-2d-lg-lk 1-39-lg-lk ",
    "1-2e-lf 1-3a-lf 1-2e-mb 1-3a-mb 1-2f-lc 1-3b-lc 1-2f-ld 1-3b-ld 1-2f-lk 1-3b-lk 1-2f-lj ",
    "1-3b-lj 1-2f-mb 1-3b-mb 1-2g-lj 1-3c-lj 1-2g-lk 1-3c-lk 1-2h-lj 1-3d-lj 1-2i-le 1-3e-le ",
    "1-2i-mb 1-3e-mb 1-2i-mp 1-3e-mp 1-2w-mp 1-38-lk 1-3b-lm 1-3d-lm 1-2p-ji 1-37-lj 5-1t-mb ",
    "1-2p-mb 1-1t-ll 1-2p-ll 1-1t-le-ld 1-2p-le-ld 1-1t-le-lc 1-2p-le-lc 1-1t-le-ll 1-2p-le-ll ",
    "1-1t-le-lf 1-2p-le-lf 1-1t-mb-le 1-2p-mb-le 1-1t-li-ld 1-2p-li-ld 1-1t-li-lc 1-2p-li-lc ",
    "1-1t-li-ll 1-2p-li-ll 1-1t-li-lf 1-2p-li-lf 1-1t-mb-li 1-2p-mb-li 1-1x-mb 1-2t-mb 1-1x-ll ",
    "1-2t-ll 1-1x-lf 1-2t-lf 1-1x-le-ld 1-2t-le-ld 1-1x-le-lc 1-2t-le-lc 1-1x-le-ll 1-2t-le-ll ",
    "1-1x-le-lf 1-2t-le-lf 1-1x-mb-le 1-2t-mb-le 1-21-ll 1-2x-ll 1-21-mb 1-2x-mb 1-27-mb 1-33-mb ",
    "1-27-ll 1-33-ll 1-27-le-ld 1-33-le-ld 1-27-le-lc 1-33-le-lc 1-27-le-ll 1-33-le-ll ",
    "1-27-le-lf 1-33-le-lf 1-27-mb-le 1-33-mb-le 1-27-m3-ld 1-33-m3-ld 1-27-m3-lc 1-33-m3-lc ",
    "1-27-m3-ll 1-33-m3-ll 1-27-m3-lf 1-33-m3-lf 1-27-m3-mb 1-33-m3-mb 1-2d-mb 1-39-mb 1-2d-ll ",
    "1-39-ll 1-2d-m3-ld 1-39-m3-ld 1-2d-m3-lc 1-39-m3-lc 1-2d-m3-ll 1-39-m3-ll 1-2d-m3-lf ",
    "1-39-m3-lf 1-2d-m3-mb 1-39-m3-mb 1-2h-lc 1-3d-lc 1-2h-mb 1-3d-mb 1-2h-ll 1-3d-ll 1-2h-lf ",
    "1-3d-lf 7-q9-lv 1-q9-lw 1-q9-lv-lc 1-q9-lw-lc 1-q9-lv-ld 1-q9-lw-ld 1-q9-lv-n6 1-q9-lw-n6 ",
    "1-pd-lv 1-pd-lw 1-pd-lv-lc 1-pd-lw-lc 1-pd-lv-ld 1-pd-lw-ld 1-pd-lv-n6 1-pd-lw-n6 1-qd-lv ",
    "1-qd-lw 1-qd-lv-lc 1-qd-lw-lc 1-qd-lv-ld 1-qd-lw-ld 3-ph-lv 1-ph-lw 1-ph-lv-lc 1-ph-lw-lc ",
    "1-ph-lv-ld 1-ph-lw-ld 3-qf-lv 1-qf-lw 1-qf-lv-lc 1-qf-lw-lc 1-qf-lv-ld 1-qf-lw-ld ",
    "1-qf-lv-n6 1-qf-lw-n6 1-pj-lv 1-pj-lw 1-pj-lv-lc 1-pj-lw-lc 1-pj-lv-ld 1-pj-lw-ld ",
    "1-pj-lv-n6 1-pj-lw-n6 1-qh-lv 1-qh-lw 1-qh-lv-lc 1-qh-lw-lc 1-qh-lv-ld 1-qh-lw-ld ",
    "1-qh-lv-n6 1-qh-lw-n6 1-pl-lv 1-pl-lw 1-pl-lv-lc 1-pl-lw-lc 1-pl-lv-ld 1-pl-lw-ld ",
    "1-pl-lv-n6 1-pl-lw-n6 1-qn-lv 1-qn-lw 1-qn-lv-lc 1-qn-lw-lc 1-qn-lv-ld 1-qn-lw-ld 3-pr-lv ",
    "1-pr-lw 1-pr-lv-lc 1-pr-lw-lc 1-pr-lv-ld 1-pr-lw-ld 3-qt-lv 1-qt-lw 1-qt-lv-lc 1-qt-lw-lc ",
    "1-qt-lv-ld 1-qt-lw-ld 1-qt-lv-n6 1-qt-lw-n6 2-px-lw 2-px-lw-lc 2-px-lw-ld 2-px-lw-n6 ",
    "1-qx-lv 1-qx-lw 1-qx-lv-lc 1-qx-lw-lc 1-qx-lv-ld 1-qx-lw-ld 1-qx-lv-n6 1-qx-lw-n6 1-q1-lv ",
    "1-q1-lw 1-q1-lv-lc 1-q1-lw-lc 1-q1-lv-ld 1-q1-lw-ld 1-q1-lv-n6 1-q1-lw-n6 1-q9-lc 1-q9-ld ",
    "1-qd-lc 1-qd-ld 1-qf-lc 1-qf-ld 1-qh-lc 1-qh-ld 1-qn-lc 1-qn-ld 1-qt-lc 1-qt-ld 1-qx-lc ",
    "1-qx-ld 3-q9-lv-n9 1-q9-lw-n9 1-q9-lv-lc-n9 1-q9-lw-lc-n9 1-q9-lv-ld-n9 1-q9-lw-ld-n9 ",
    "1-q9-lv-n6-n9 1-q9-lw-n6-n9 1-pd-lv-n9 1-pd-lw-n9 1-pd-lv-lc-n9 1-pd-lw-lc-n9 1-pd-lv-ld-n9 ",
    "1-pd-lw-ld-n9 1-pd-lv-n6-n9 1-pd-lw-n6-n9 1-qf-lv-n9 1-qf-lw-n9 1-qf-lv-lc-n9 1-qf-lw-lc-n9 ",
    "1-qf-lv-ld-n9 1-qf-lw-ld-n9 1-qf-lv-n6-n9 1-qf-lw-n6-n9 1-pj-lv-n9 1-pj-lw-n9 1-pj-lv-lc-n9 ",
    "1-pj-lw-lc-n9 1-pj-lv-ld-n9 1-pj-lw-ld-n9 1-pj-lv-n6-n9 1-pj-lw-n6-n9 1-qx-lv-n9 1-qx-lw-n9 ",
    "1-qx-lv-lc-n9 1-qx-lw-lc-n9 1-qx-lv-ld-n9 1-qx-lw-ld-n9 1-qx-lv-n6-n9 1-qx-lw-n6-n9 ",
    "1-q1-lv-n9 1-q1-lw-n9 1-q1-lv-lc-n9 1-q1-lw-lc-n9 1-q1-lv-ld-n9 1-q1-lw-ld-n9 1-q1-lv-n6-n9 ",
    "1-q1-lw-n6-n9 1-q9-li 1-q9-lg 1-q9-lc-n9 1-q9-n9 1-q9-ld-n9 2-q9-n6 1-q9-n6-n9 1-pd-li ",
    "1-pd-lg 1-pd-lc 1-pd-ld 1-pd-n9 2-qh 4-qf-lc-n9 1-qf-n9 1-qf-ld-n9 2-qf-n6 1-qf-n6-n9 ",
    "1-ph-lc 1-ph-ld 1-pj-lc 1-pj-ld 1-pj-n9 4-qh-li 1-qh-lg 1-qh-lk-lc 1-qh-lk-ld 3-qh-n6 ",
    "1-qh-lk-n6 1-pl-li 1-pl-lg 1-pl-lc 1-pl-ld 5-qt-li 1-qt-lg 1-qt-lk-lc 1-qt-lk-ld 1-qp-lv ",
    "1-qp-lw 1-qt-n6 1-qt-lk-n6 1-px-li 1-px-lg 1-px-lc 1-px-ld 1-pt-lw 6-qx-lc-n9 1-qx-n9 ",
    "1-qx-ld-n9 2-qx-n6 1-qx-n6-n9 1-pr-lc 1-pr-ld 1-q1-lc 1-q1-ld 1-q1-n9 39-2x e-32 h-2p 1-2t ",
    "1-33 1-3c 1-gp 1-2w 1-2z 1-30 1-31 1-32 1-34 1-37 1-38 2u-1v 5-b4 3-2v 1-20 1-20 1-20 1-2w ",
    "1-87 1-21 1-21 1-24 1-30 2-26 4-28 1-29 1-2a 1-2a 1-2a 7-2i 2-q1 2-2i 2-23 1-1t-lm 1-1u ",
    "1-1v 2-2t 1-1x 1-1y 2-25 1-33 1-15c 1-15d 1-15e 1-15f 1-2x 3-qo 1-qb 1-pf 1-ps 6-1w 1-2s ",
    "1-2t 1-2x 1-2y n-21 1-21-21 1-21-21-21 1-21-2e 1-2e 1-2e-21 1-2e-21-21 1-2e-21-21-21 ",
    "1-21-2g 1-2g 1-2g-21 1-2g-21-21 1-24 1-1v 1-1w 1-25 1-2x 1-2x-2x 1-2x-2x-2x 1-2x-3a 1-3a ",
    "1-3a-2x 1-3a-2x-2x 1-3a-2x-2x-2x 1-2x-3c 1-3c 1-3c-2x 1-3c-2x-2x 1-30 1-2r 1-2s 1-31 265-2y ",
    "1-2e 6q-8yp jt-gg1 1-gg4 1-gg5 i-9jf-9ll 2-9jh-9ll 2-9jj-9ll 2-9jl-9ll 2-9jn-9ll 2-9jp-9ll ",
    "2-9jr-9ll 2-9jt-9ll 2-9jv-9ll 2-9jx-9ll 2-9jz-9ll 2-9k1-9ll 3-9k4-9ll 2-9k6-9ll 2-9k8-9ll ",
    "7-9kf-9ll 1-9kf-9lm 2-9ki-9ll 1-9ki-9lm 2-9kl-9ll 1-9kl-9lm 2-9ko-9ll 1-9ko-9lm 2-9kr-9ll ",
    "1-9kr-9lm n-9ja-9ll a-9lp-9ll 1-9l4-9l6 d-9m3-9ll 2-9m5-9ll 2-9m7-9ll 2-9m9-9ll 2-9mb-9ll ",
    "2-9md-9ll 2-9mf-9ll 2-9mh-9ll 2-9mj-9ll 2-9ml-9ll 2-9mn-9ll 2-9mp-9ll 3-9ms-9ll 2-9mu-9ll ",
    "2-9mw-9ll 7-9n3-9ll 1-9n3-9lm 2-9n6-9ll 1-9n6-9lm 2-9n9-9ll 1-9n9-9lm 2-9nc-9ll 1-9nc-9lm ",
    "2-9nf-9ll 1-9nf-9lm n-9ly-9ll 3-9nz-9ll 1-9o0-9ll 1-9o1-9ll 1-9o2-9ll 4-9od-9ll 1-9mb-9mw ",
    "1e-3cw 1-3cx 1-3hm 1-3cy 1-3ho 1-3hp 1-3cz 1-3d0 1-3d1 1-3hs 1-3ht 1-3hu 1-3hv 1-3hw 1-3hx ",
    "1-3dm 1-3d2 1-3d3 1-3d4 1-3dt 1-3d5 1-3d6 1-3d7 1-3d8 1-3d9 1-3da 1-3db 1-3dc 1-3dd 1-3de ",
    "1-3fl 1-3fm 1-3fn 1-3fo 1-3fp 1-3fq 1-3fr 1-3fs 1-3ft 1-3fu 1-3fv 1-3fw 1-3fx 1-3fy 1-3fz ",
    "1-3g0 1-3g1 1-3g2 1-3g3 1-3g4 1-3g5 1-3fk 1-3dg 1-3dh 1-3if 1-3ig 1-3ik 1-3im 1-3ir 1-3iv ",
    "1-3ix 1-3do 1-3j1 1-3j3 1-3dp 1-3dq 1-3ds 1-3du 1-3dv 1-3dz 1-3e1 1-3e3 1-3e4 1-3e5 1-3e6 ",
    "1-3e7 1-3ea 1-3ee 1-3eo 1-3ev 1-3f0 1-3jl 1-3jm 1-3fb 1-3fc 1-3fd 1-3gk 1-3gl 1-3go 1-3gx ",
    "1-3gy 1-3h0 1-3ha 1-3hd n4e-ui 1-uk 5v-x2n 3m-1v 1-1y 1-29 4-86 1-9f o3-x0n 1-xtj 1-h7 ",
    "1-xua a-i5 fbr-rpk 1-kc4 1-s7e 1-rt4 1-lw1 1-fg2 1-gkl 1-vj0 1-vj0 1-hn5 1-ssx 1-gw7 1-hmw ",
    "1-jcm 1-ne1 1-p6t 1-qin 1-qt6 1-r20 1-sjz 1-kxu 1-ljv 1-mah 1-mvy 1-q4d 1-sq2 1-uep 1-fia ",
    "1-ghh 1-l50 1-mjf 1-qi5 1-v8e 1-ifk 1-m3v 1-qfh 1-r50 1-jih 1-pnc 1-qvz 1-iq2 1-kd3 1-lm2 ",
    "1-mpo 1-slq 1-fpi 1-g53 1-gda 1-jwk 1-l3n 1-mj4 1-nhj 1-pa9 1-qh2 1-qjg 1-s1b 1-tv6 1-upb ",
    "1-v7e 1-nt8 1-nzz 1-otc 1-q15 1-t1g 1-vb3 1-rfa 1-hjz 1-iro 1-okg 1-pdq 1-mle 1-nuy 1-rsy ",
    "1-ttj 1-hjs 1-i8y 1-kyb 1-lp6 1-lxr 1-oq7 1-oxj 1-tor 1-gcy 1-pe3 1-g64 1-g5o 1-o4c 1-ou6 ",
    "1-q29 1-tpx 1-rk0 1-jin 1-kxu 1-rge 1-fg9 1-i5j 1-iz6 1-mtj 1-n74 1-gev 1-nwb 1-fr3 1-iw9 ",
    "1-ff1 1-lho 1-k1k 1-opu 1-gjn 1-hge 1-ni9 1-q4p 1-re2 1-la2 1-sds 1-lfs 1-jjy 1-put 1-jog ",
    "1-n6t 1-fji 1-g2x 1-g5l 1-kn5 1-oo7 1-prj 1-rf6 1-ssv 1-gdx 1-gn6 1-ho3 1-ir0 1-k3p 1-m4e ",
    "1-nxm 1-tkd 1-ui2 1-vbr 1-vda 1-gbf 1-kau 1-l87 1-sbm 1-ino 1-j9s 1-jcw 1-jve 1-lyb 1-mdl ",
    "1-n0p 1-o22 1-ovo 1-pdb 1-s9y 1-q9a 1-sgz 1-t3e 1-g7r 1-gbn 1-gql 1-ma0 1-r0i 1-re2 1-iq1 ",
    "1-iyd 1-jnf 1-l9q 1-oji 1-mt1 1-fl0 1-h6h 1-i5j 1-iii 1-izg 1-muq 1-mzt 1-p7e 1-pc6 1-svo ",
    "1-tti 1-tvs 1-u1k 1-fpn 1-o1a 1-ss4 1-trs 1-j4x 1-fie 1-fyy 1-i5q 1-i7z 1-k2h 1-kxu 1-mha ",
    "1-ncy 1-q9o 1-sjg 1-vil 1-k94 1-tny 1-gax 1-kfv 1-kj7 1-lkx 1-luk 1-mx5 1-n6h 1-nsb 1-opc ",
    "1-u3i 1-g31 1-je6 1-tq0 1-fu3 1-ie1 1-lpm 1-sa2 1-ivf 1-j7o 1-kk7 1-mtj 1-tqe 1-g89 1-glr ",
    "1-i91 1-k5v 1-kem 1-ko8 1-lid 1-mx2 1-naa 1-p6h 1-r0v 1-r1d 1-sss 1-tsy 1-gfz 1-lve 1-gm5 ",
    "1-mhc 1-n14 1-qgq 1-tr7 1-uvr 1-vbz 1-kgn 1-lor 1-pns 1-o97 1-obk 1-olu 1-mo0 1-m8p 1-riw ",
    "1-fk0 1-px2 1-g8q 1-g7b 1-ip2 1-jir 1-onq 1-i2t 1-ljy 1-kac 1-saj 1-qx8 1-tot 1-r63 1-iqb ",
    "1-g1s 1-gxs 3-hga 2-k8k 3-g66 1-mqy 1-ngq 1-ny4 1-nz2 1-nz9 1-o0f 1-tw6 1-on2 1-p8d 2-qhe ",
    "2-rg8 3-shk 1-sn1 4-u7j 1-u7w 1-u94 1-v5g 1-sm6 1-trr 1-fqm 1-fzb 1-g25 1-gcp 1-gdg 1-ggh ",
    "1-gwt 1-gzq 1-h2g 1-hfk 1-hig 1-i90 1-i9a 1-j2s 1-j8o 1-j9q 1-jci 1-k0f 1-k4i 1-k9d 1-kn9 ",
    "1-lmf 1-lqy 1-lya 1-mem 1-mjv 1-mxu 1-ntd 1-ny6 1-nyh 1-nyg 1-nyo 1-nyu 1-nz1 1-o0d 1-o0e ",
    "1-o5c 1-o75 1-og0 1-ovo 1-ow9 1-oxt 1-p6a 1-pad 1-pnx 1-prt 1-prt 1-q53 1-r2o 1-r6e 1-rgh ",
    "1-ri1 1-rtf 1-ruw 1-sdy 1-shk 1-tsz 1-u0v 1-u2j 1-j1x 1-36cu 1-pp4 3-ffq 1-g51 1-g2w 1-fpc ",
    "1-g1x 1-g3k 1-gcn 1-ge2 1-gwt 1-gut 1-gwp 1-gyq 1-hga 1-hir 1-hms 1-hn8 1-huq 1-i08 1-iqa ",
    "1-iqh 1-iuh 1-iwd 1-j4o 1-j7y 1-j60 1-j9q 1-j8g 1-jci 1-jec 1-jpg 1-jrw 1-jte 1-k0m 1-k8k ",
    "1-kd3 1-kd7 1-keu 1-l89 1-la2 1-lkx 1-lwb 1-lvv 1-lya 1-m5a 1-mem 1-nmv 1-mk5 1-mnj 1-mqy ",
    "1-n01 1-n46 1-n5n 1-nbx 1-nbz 1-ngq 1-nh7 1-nhw 1-nka 1-nk0 1-nv0 1-o8h 1-og0 1-ol7 1-orf ",
    "1-ovo 1-p4u 1-pad 1-pxu 1-q27 1-qrd 1-r41 1-r5y 1-r6e 1-ren 1-rg8 1-rez 1-rgh 1-rge 1-rfx ",
    "1-ri1 1-rka 1-ruw 1-sag 1-sj6 1-srd 1-sxi 1-tq4 1-tsz 1-tw6 1-tzv 1-u0v 1-u17 1-u2j 1-umq ",
    "1-vj0 1-313e 1-3138 1-33dh 1-brx 1-cns 1-cop 1-39e1 1-3bgw 1-3i6r 1-vgj 1-vim 13-2u-2u ",
    "1-2u-2x 1-2u-30 1-2u-2u-2x 1-2u-2u-30 1-37-38 1-37-38 d-12s-12u 1-12s-12d 1-12s-12j ",
    "1-132-12u 1-12s-12l 6-15l-14k 2-16a-14n 1-15u 1-15c 1-15f 1-15g 1-15n 1-15o 1-15p 1-160 ",
    "1-162 2-161-14x 1-161-14y 1-161-14s-14x 1-161-14s-14y 1-15c-14n 1-15c-14o 1-15c-14s ",
    "1-15d-14s 1-15e-14s 1-15f-14s 1-15g-14s 1-15h-14s 1-15i-14s 2-15k-14s 1-15l-14s 1-15m-14s ",
    "1-15n-14s 1-15o-14s 2-15q-14s 2-15s-14s 1-15t-14s 2-15v-14s 1-15w-14s 2-15y-14s 1-15z-14s ",
    "1-160-14s 1-161-14s 1-162-14s 1-15h-14p 1-15d-14v 1-15n-14v 1-15w-14v 1-15c-15o 1-19t 1-19t ",
    "1-1a3 1-1a3 1-1a3 1-1a3 1-1a6 1-1a6 1-1a6 1-1a6 1-1a8 1-1a8 1-1a8 1-1a8 1-1a2 1-1a2 1-1a2 ",
    "1-1a2 1-1a7 1-1a7 1-1a7 1-1a7 1-1a1 1-1a1 1-1a1 1-1a1 1-1b8 1-1b8 1-1b8 1-1b8 1-1ba 1-1ba ",
    "1-1ba 1-1ba 1-1ac 1-1ac 1-1ac 1-1ac 1-1ab 1-1ab 1-1ab 1-1ab 1-1ae 1-1ae 1-1ae 1-1ae 1-1af ",
    "1-1af 1-1af 1-1af 1-1al 1-1al 1-1ak 1-1ak 1-1am 1-1am 1-1ag 1-1ag 1-1aw 1-1aw 1-1ap 1-1ap ",
    "1-1bd 1-1bd 1-1bd 1-1bd 1-1bj 1-1bj 1-1bj 1-1bj 1-1bn 1-1bn 1-1bn 1-1bn 1-1bl 1-1bl 1-1bl ",
    "1-1bl 1-1bu 1-1bu 1-1bv 1-1bv 1-1bv 1-1bv 1-1cl-190 1-1cl-190 1-1c1 1-1c1 1-1c1 1-1c1 1-1by ",
    "1-1by 1-1by 1-1by 1-1ci 1-1ci 1-1ci-190 1-1ci-190 y-1bh 1-1bh 1-1bh 1-1bh 1-1c7 1-1c7 1-1c6 ",
    "1-1c6 1-1c8 1-1c8 1-1c7-19w 1-1cb 1-1cb 1-1c5 1-1c5 1-1c9 1-1c9 1-1cg 1-1cg 1-1cg 1-1cg ",
    "1-18p 1-18p 1-18q-190-17r 1-18q-190-17r 1-18q-190-1cl 1-18q-190-1cl 1-18q-190-18o ",
    "1-18q-190-18o 1-18q-190-1c7 1-18q-190-1c7 1-18q-190-1c6 1-18q-190-1c6 1-18q-190-1c8 ",
    "1-18q-190-1c8 1-18q-190-1cg 1-18q-190-1cg 1-18q-190-1cg 1-18q-190-18p 1-18q-190-18p ",
    "1-18q-190-18p 1-1cc 1-1cc 1-1cc 1-1cc 1-18q-190-17w 1-18q-190-17x 1-18q-190-18l ",
    "1-18q-190-18p 1-18q-190-18q 1-17s-17w 1-17s-17x 1-17s-17y 1-17s-18l 1-17s-18p 1-17s-18q ",
    "1-17u-17w 1-17u-17x 1-17u-17y 1-17u-18l 1-17u-18p 1-17u-18q 1-17v-17w 1-17v-18l 1-17v-18p ",
    "1-17v-18q 1-17w-17x 1-17w-18l 1-17x-17w 1-17x-18l 1-17y-17w 1-17y-17x 1-17y-18l 1-183-17w ",
    "1-183-17x 1-183-17y 1-183-18l 1-185-17x 1-185-18l 1-186-17w 1-186-17x 1-186-17y 1-186-18l ",
    "1-187-17x 1-187-18l 1-188-18l 1-189-17w 1-189-18l 1-18a-17w 1-18a-18l 1-18h-17w 1-18h-17x ",
    "1-18h-17y 1-18h-18l 1-18h-18p 1-18h-18q 1-18i-17x 1-18i-18l 1-18i-18p 1-18i-18q 1-18j-17r ",
    "1-18j-17w 1-18j-17x 1-18j-17y 1-18j-18k 1-18j-18l 1-18j-18p 1-18j-18q 1-18k-17w 1-18k-17x ",
    "1-18k-17y 1-18k-18l 1-18k-18p 1-18k-18q 1-18l-17w 1-18l-17x 1-18l-17y 1-18l-18l 1-18l-18p ",
    "1-18l-18q 1-18m-17w 1-18m-17x 1-18m-17y 1-18m-18l 1-18m-18p 1-18m-18q 1-18n-17w 1-18n-18l ",
    "1-18n-18p 1-18n-18q 1-18q-17w 1-18q-17x 1-18q-17y 1-18q-18l 1-18q-18p 1-18q-18q 1-180-19s ",
    "1-181-19s 1-18p-19s 7-18q-190-181 1-18q-190-182 1-18q-190-18l 1-18q-190-18m 1-18q-190-18p ",
    "1-18q-190-18q 1-17s-181 1-17s-182 1-17s-18l 1-17s-18m 1-17s-18p 1-17s-18q 1-17u-181 ",
    "1-17u-182 1-17u-18l 1-17u-18m 1-17u-18p 1-17u-18q 1-17v-181 1-17v-182 1-17v-18l 1-17v-18m ",
    "1-17v-18p 1-17v-18q 1-18h-18p 1-18h-18q 1-18i-18p 1-18i-18q 1-18j-17r 1-18j-18k 1-18j-18l ",
    "1-18j-18p 1-18j-18q 1-18k-18l 1-18k-18p 1-18k-18q 1-18l-17r 1-18l-18l 1-18m-181 1-18m-182 ",
    "1-18m-18l 1-18m-18m 1-18m-18p 1-18m-18q 1-18p-19s 1-18q-181 1-18q-182 1-18q-18l 1-18q-18m ",
    "1-18q-18p 1-18q-18q 1-18q-190-17w 1-18q-190-17x 1-18q-190-17y 1-18q-190-18l 1-18q-190-18n ",
    "1-17s-17w 1-17s-17x 1-17s-17y 1-17s-18l 1-17s-18n 1-17u-17w 1-17u-17x 1-17u-17y 1-17u-18l ",
    "1-17u-18n 1-17v-18l 1-17w-17x 1-17w-18l 1-17x-17w 1-17x-18l 1-17y-17w 1-17y-18l 1-183-17w ",
    "1-183-17x 1-183-17y 1-183-18l 1-185-17x 1-185-17y 1-185-18l 1-186-17w 1-186-17x 1-186-17y ",
    "1-186-18l 1-187-17x 1-188-18l 1-189-17w 1-189-18l 1-18a-17w 1-18a-18l 1-18h-17w 1-18h-17x ",
    "1-18h-17y 1-18h-18l 1-18i-17x 1-18i-18l 1-18j-17w 1-18j-17x 1-18j-17y 1-18j-18k 1-18j-18l ",
    "1-18k-17w 1-18k-17x 1-18k-17y 1-18k-18l 1-18k-18n 1-18l-17w 1-18l-17x 1-18l-17y 1-18l-18l ",
    "1-18m-17w 1-18m-17x 1-18m-17y 1-18m-18l 1-18m-18n 1-18n-17w 1-18n-18l 1-18n-19s 1-18q-17w ",
    "1-18q-17x 1-18q-17y 1-18q-18l 1-18q-18n 1-18q-190-18l 1-18q-190-18n 1-17s-18l 1-17s-18n ",
    "1-17u-18l 1-17u-18n 1-17v-18l 1-17v-18n 1-183-18l 1-183-18n 1-184-18l 1-184-18n 1-18j-18k ",
    "1-18j-18l 1-18k-18l 1-18m-18l 1-18m-18n 1-18q-18l 1-18q-18n 1-18g-18u-18x 1-18g-18v-18x ",
    "1-18g-18w-18x 1-187-18p 1-187-18q 1-189-18p 1-189-18q 1-18a-18p 1-18a-18q 1-183-18p ",
    "1-183-18q 1-184-18p 1-184-18q 1-17x-18p 1-17x-18q 1-17w-18p 1-17w-18q 1-17y-18p 1-17y-18q ",
    "1-185-18p 1-185-18q 1-186-18p 1-186-18q 1-184-17w 1-184-17x 1-184-17y 1-184-18l 1-184-181 ",
    "1-183-181 1-185-181 1-186-181 1-187-18p 1-187-18q 1-189-18p 1-189-18q 1-18a-18p 1-18a-18q ",
    "1-183-18p 1-183-18q 1-184-18p 1-184-18q 1-17x-18p 1-17x-18q 1-17w-18p 1-17w-18q 1-17y-18p ",
    "1-17y-18q 1-185-18p 1-185-18q 1-186-18p 1-186-18q 1-184-17w 1-184-17x 1-184-17y 1-184-18l ",
    "1-184-181 1-183-181 1-185-181 1-186-181 1-184-17w 1-184-17x 1-184-17y 1-184-18l 1-183-18n ",
    "1-184-18n 1-187-18l 1-183-17w 1-183-17x 1-183-17y 1-184-17w 1-184-17x 1-184-17y 1-187-18l ",
    "1-188-18l 1-17r-18r 1-17r-18r j-17u-17w-18l 1-17u-17x-17w 1-17u-17x-17w 1-17u-17x-18l ",
    "1-17u-17y-18l 1-17u-18l-17w 1-17u-18l-17x 1-17u-18l-17y 1-17w-18l-17x 1-17w-18l-17x ",
    "1-17x-18l-18q 1-17x-18l-18p 1-183-17x-17w 1-183-17w-17x 1-183-17w-18p 1-183-18l-17x ",
    "1-183-18l-17x 1-183-18l-17w 1-183-18l-18l 1-183-18l-18l 1-185-17x-17x 1-185-17x-17x ",
    "1-185-18l-18l 1-184-17x-18l 1-184-17x-18l 1-184-17w-18q 1-184-18l-17y 1-184-18l-17y ",
    "1-184-18l-18l 1-184-18l-18l 1-186-17x-18p 1-186-17y-18l 1-186-17y-18l 1-187-18l-17x ",
    "1-187-18l-17x 1-187-18l-18l 1-187-18l-18q 1-189-17w-18l 1-189-18l-18l 1-189-18l-18l ",
    "1-189-18l-18p 1-18a-18l-18l 1-18a-18l-18q 1-18a-18l-18p 1-18h-17y-18l 1-18h-17y-18l ",
    "1-18i-18l-17x 1-18i-18l-18l 1-18k-17x-18l 1-18k-17x-18q 1-18k-17x-18p 1-18k-17w-17w ",
    "1-18k-17w-17w 1-18k-17y-18l 1-18k-17y-18l 1-18k-18l-17x 1-18k-18l-17x 1-18l-17x-17w ",
    "1-18l-17x-18l 1-18l-17x-18q 1-18l-17w-17x 1-18l-17w-18l 1-18l-17y-17w 1-18l-17y-18l ",
    "3-18l-17w-17y 1-18n-18l-17w 1-18n-18l-18l 1-18m-17x-18l 1-18m-17x-18p 1-18m-17w-18l ",
    "1-18m-17w-18l 1-18m-17w-18p 1-18m-18l-18q 1-18m-18l-18p 1-18q-18l-18l 1-18q-18l-18l ",
    "1-17s-17y-18q 1-17u-17w-18q 1-17u-17w-18p 1-17u-17y-18q 1-17u-17y-18p 1-17u-18l-18q ",
    "1-17u-18l-18p 1-17w-18l-18q 1-17w-17x-18p 1-17w-18l-18p 1-183-17y-18p 1-185-17x-18q ",
    "1-184-17x-18q 1-186-17x-18q 1-18k-17w-18q 1-18k-18l-18q 1-18q-17x-18q 1-18q-17w-18q ",
    "1-18q-18l-18q 1-18l-18l-18q 1-18i-18l-18q 1-18m-17x-18q 1-18i-18l-17x 1-18k-17x-18l ",
    "1-189-18l-18q 1-18j-18l-18q 1-18m-17w-17x 1-18l-17y-18q 1-18k-17w-18l 1-18j-18l-18l ",
    "1-18k-17w-18l 1-18m-17w-17x 1-17w-17x-18q 1-17x-17w-18q 1-18l-17w-18q 1-18h-18l-18q ",
    "1-17s-17x-18q 1-18j-18l-18l 1-189-17w-18l 1-185-18l-18l 1-183-17y-18q 1-18m-17w-18q ",
    "15-185-18k-1ci 1-18i-18k-1ci 1-17r-18k-18k-18n 1-17r-18j-17s-181 1-18l-17x-18l-17z ",
    "1-185-18k-189-18l 1-181-183-18o-18k 1-189-18k-18q-18n 1-18o-183-18k-18l 1-185-18k-18p 1m-2n ",
    "1-2n p-2n 1-2n 1-2n y-18g-18r 6-18g-18u 2-18g-18v 2-18g-18w 2-18g-18x 2-18g-18y 1-17l ",
    "1-17r-18z 1-17r-18z 1-17r-190 1-17r-190 1-18o-190 1-18o-190 1-17r-191 1-17r-191 1-18q-190 ",
    "1-18q-190 1-18q-190 1-18q-190 1-17r 1-17r 1-17s 1-17s 1-17s 1-17s 1-17t 1-17t 1-17u 1-17u ",
    "1-17u 1-17u 1-17v 1-17v 1-17v 1-17v 1-17w 1-17w 1-17w 1-17w 1-17x 1-17x 1-17x 1-17x 1-17y ",
    "1-17y 1-17y 1-17y 1-17z 1-17z 1-180 1-180 1-181 1-181 1-182 1-182 1-183 1-183 1-183 1-183 ",
    "1-184 1-184 1-184 1-184 1-185 1-185 1-185 1-185 1-186 1-186 1-186 1-186 1-187 1-187 1-187 ",
    "1-187 1-188 1-188 1-188 1-188 1-189 1-189 1-189 1-189 1-18a 1-18a 1-18a 1-18a 1-18h 1-18h ",
    "1-18h 1-18h 1-18i 1-18i 1-18i 1-18i 1-18j 1-18j 1-18j 1-18j 1-18k 1-18k 1-18k 1-18k 1-18l ",
    "1-18l 1-18l 1-18l 1-18m 1-18m 1-18m 1-18m 1-18n 1-18n 1-18n 1-18n 1-18o 1-18o 1-18p 1-18p ",
    "1-18q 1-18q 1-18q 1-18q 1-18k-17r-18z 1-18k-17r-18z 1-18k-17r-190 1-18k-17r-190 ",
    "1-18k-17r-191 1-18k-17r-191 1-18k-17r 1-18k-17r k-1c 1-1d 1-1e 1-1f 1-1g 1-1h 1-1i 1-1j ",
    "1-1k 1-1l 8-1t 1-1u 1-1v 1-1w 1-1x 1-1y 1-1z 1-20 1-21 1-22 1-23 1-24 1-25 1-26 1-27 1-28 ",
    "1-29 1-2a 1-2b 1-2c 1-2d 1-2e 1-2f 1-2g 1-2h 1-2i 5-2n 2-2p 1-2q 1-2r 1-2s 1-2t 1-2u 1-2v ",
    "1-2w 1-2x 1-2y 1-2z 1-30 1-31 1-32 1-33 1-34 1-35 1-36 1-37 1-38 1-39 1-3a 1-3b 1-3c 1-3d ",
    "1-3e c-9o2 1-9lt 1-9lv 1-9lx 1-9lz 1-9m1 1-9nn 1-9np 1-9nr 1-9mr 1-9oc 1-9lu 1-9lw 1-9ly ",
    "1-9m0 1-9m2 1-9m3 1-9m5 1-9m7 1-9m9 1-9mb 1-9md 1-9mf 1-9mh 1-9mj 1-9ml 1-9mn 1-9mp 1-9ms ",
    "1-9mu 1-9mw 1-9my 1-9mz 1-9n0 1-9n1 1-9n2 1-9n3 1-9n6 1-9n9 1-9nc 1-9nf 1-9ni 1-9nj 1-9nk ",
    "1-9nl 1-9nm 1-9no 1-9nq 1-9ns 1-9nt 1-9nu 1-9nv 1-9nw 1-9nx 1-9nz 1-9o3 1-9ll 1-9lm 1-3fk ",
    "1-3cw 1-3cx 1-3hm 1-3cy 1-3ho 1-3hp 1-3cz 1-3d0 1-3d1 1-3hs 1-3ht 1-3hu 1-3hv 1-3hw 1-3hx ",
    "1-3dm 1-3d2 1-3d3 1-3d4 1-3dt 1-3d5 1-3d6 1-3d7 1-3d8 1-3d9 1-3da 1-3db 1-3dc 1-3dd 1-3de ",
    "4-3fl 1-3fm 1-3fn 1-3fo 1-3fp 1-3fq 3-3fr 1-3fs 1-3ft 1-3fu 1-3fv 1-3fw 3-3fx 1-3fy 1-3fz ",
    "1-3g0 1-3g1 1-3g2 3-3g3 1-3g4 1-3g5 1id-k0 1-k1 1-6e 1-ih 1-gj 2-ir 1-xuu 1-it 1-is 1-gm ",
    "1-gn 1-5u9 1-go 1-gu 1-ix 1-h0 1-gy 1-gw 1-ij 1-87 1-ik 1-h3 1-hw 1-iy 1-iz 1-h8 1-2mmc ",
    "1-x3i 1-ha 1-2mmd 1-i6 1-2mme 1-6w 1-hi 1-hj 1-35 1-hm 1-2mmg 1-hp 1-hq 1-hs 1-iw 1-iu ",
    "1-xuv 1-iv 1-i0 1-8s1 2-i7 1-ip 1-iq 1-ig 1-cg 1-ch 1-ci 1-2mmi 1-2mn2 1r4-1huh-1hve ",
    "2-1huj-1hve f-1hut-1hve 3n-1hyp-1hyf 1-1hyq-1hyf f0-1idj-1ida 1-1idj-1idz a7-1int-1inu ",
    "1-1int-1ink 2-1int-1inx 70-1iuw-1iun 1-1iux-1iun ot-1jjp-1jjk 10w8-1t 1-1u 1-1v 1-1w 1-1x ",
    "1-1y 1-1z 1-20 1-21 1-22 1-23 1-24 1-25 1-26 1-27 1-28 1-29 1-2a 1-2b 1-2c 1-2d 1-2e 1-2f ",
    "1-2g 1-2h 1-2i 1-2p 1-2q 1-2r 1-2s 1-2t 1-2u 1-2v 1-2w 1-2x 1-2y 1-2z 1-30 1-31 1-32 1-33 ",
    "1-34 1-35 1-36 1-37 1-38 1-39 1-3a 1-3b 1-3c 1-3d 1-3e 1-1t 1-1u 1-1v 1-1w 1-1x 1-1y 1-1z ",
    "1-20 1-21 1-22 1-23 1-24 1-25 1-26 1-27 1-28 1-29 1-2a 1-2b 1-2c 1-2d 1-2e 1-2f 1-2g 1-2h ",
    "1-2i 1-2p 1-2q 1-2r 1-2s 1-2t 1-2u 1-2v 2-2x 1-2y 1-2z 1-30 1-31 1-32 1-33 1-34 1-35 1-36 ",
    "1-37 1-38 1-39 1-3a 1-3b 1-3c 1-3d 1-3e 1-1t 1-1u 1-1v 1-1w 1-1x 1-1y 1-1z 1-20 1-21 1-22 ",
    "1-23 1-24 1-25 1-26 1-27 1-28 1-29 1-2a 1-2b 1-2c 1-2d 1-2e 1-2f 1-2g 1-2h 1-2i 1-2p 1-2q ",
    "1-2r 1-2s 1-2t 1-2u 1-2v 1-2w 1-2x 1-2y 1-2z 1-30 1-31 1-32 1-33 1-34 1-35 1-36 1-37 1-38 ",
    "1-39 1-3a 1-3b 1-3c 1-3d 1-3e 1-1t 2-1v 1-1w 3-1z 3-22 1-23 3-26 1-27 1-28 1-29 2-2b 1-2c ",
    "1-2d 1-2e 1-2f 1-2g 1-2h 1-2i 1-2p 1-2q 1-2r 1-2s 2-2u 2-2w 1-2x 1-2y 1-2z 1-30 1-31 1-32 ",
    "2-34 1-35 1-36 1-37 1-38 1-39 1-3a 1-3b 1-3c 1-3d 1-3e 1-1t 1-1u 1-1v 1-1w 1-1x 1-1y 1-1z ",
    "1-20 1-21 1-22 1-23 1-24 1-25 1-26 1-27 1-28 1-29 1-2a 1-2b 1-2c 1-2d 1-2e 1-2f 1-2g 1-2h ",
    "1-2i 1-2p 1-2q 1-2r 1-2s 1-2t 1-2u 1-2v 1-2w 1-2x 1-2y 1-2z 1-30 1-31 1-32 1-33 1-34 1-35 ",
    "1-36 1-37 1-38 1-39 1-3a 1-3b 1-3c 1-3d 1-3e 1-1t 1-1u 2-1w 1-1x 1-1y 1-1z 3-22 1-23 1-24 ",
    "1-25 1-26 1-27 1-28 1-29 2-2b 1-2c 1-2d 1-2e 1-2f 1-2g 1-2h 2-2p 1-2q 1-2r 1-2s 1-2t 1-2u ",
    "1-2v 1-2w 1-2x 1-2y 1-2z 1-30 1-31 1-32 1-33 1-34 1-35 1-36 1-37 1-38 1-39 1-3a 1-3b 1-3c ",
    "1-3d 1-3e 1-1t 1-1u 2-1w 1-1x 1-1y 1-1z 2-21 1-22 1-23 1-24 1-25 2-27 4-2b 1-2c 1-2d 1-2e ",
    "1-2f 1-2g 1-2h 2-2p 1-2q 1-2r 1-2s 1-2t 1-2u 1-2v 1-2w 1-2x 1-2y 1-2z 1-30 1-31 1-32 1-33 ",
    "1-34 1-35 1-36 1-37 1-38 1-39 1-3a 1-3b 1-3c 1-3d 1-3e 1-1t 1-1u 1-1v 1-1w 1-1x 1-1y 1-1z ",
    "1-20 1-21 1-22 1-23 1-24 1-25 1-26 1-27 1-28 1-29 1-2a 1-2b 1-2c 1-2d 1-2e 1-2f 1-2g 1-2h ",
    "1-2i 1-2p 1-2q 1-2r 1-2s 1-2t 1-2u 1-2v 1-2w 1-2x 1-2y 1-2z 1-30 1-31 1-32 1-33 1-34 1-35 ",
    "1-36 1-37 1-38 1-39 1-3a 1-3b 1-3c 1-3d 1-3e 1-1t 1-1u 1-1v 1-1w 1-1x 1-1y 1-1z 1-20 1-21 ",
    "1-22 1-23 1-24 1-25 1-26 1-27 1-28 1-29 1-2a 1-2b 1-2c 1-2d 1-2e 1-2f 1-2g 1-2h 1-2i 1-2p ",
    "1-2q 1-2r 1-2s 1-2t 1-2u 1-2v 1-2w 1-2x 1-2y 1-2z 1-30 1-31 1-32 1-33 1-34 1-35 1-36 1-37 ",
    "1-38 1-39 1-3a 1-3b 1-3c 1-3d 1-3e 1-1t 1-1u 1-1v 1-1w 1-1x 1-1y 1-1z 1-20 1-21 1-22 1-23 ",
    "1-24 1-25 1-26 1-27 1-28 1-29 1-2a 1-2b 1-2c 1-2d 1-2e 1-2f 1-2g 1-2h 1-2i 1-2p 1-2q 1-2r ",
    "1-2s 1-2t 1-2u 1-2v 1-2w 1-2x 1-2y 1-2z 1-30 1-31 1-32 1-33 1-34 1-35 1-36 1-37 1-38 1-39 ",
    "1-3a 1-3b 1-3c 1-3d 1-3e 1-1t 1-1u 1-1v 1-1w 1-1x 1-1y 1-1z 1-20 1-21 1-22 1-23 1-24 1-25 ",
    "1-26 1-27 1-28 1-29 1-2a 1-2b 1-2c 1-2d 1-2e 1-2f 1-2g 1-2h 1-2i 1-2p 1-2q 1-2r 1-2s 1-2t ",
    "1-2u 1-2v 1-2w 1-2x 1-2y 1-2z 1-30 1-31 1-32 1-33 1-34 1-35 1-36 1-37 1-38 1-39 1-3a 1-3b ",
    "1-3c 1-3d 1-3e 1-1t 1-1u 1-1v 1-1w 1-1x 1-1y 1-1z 1-20 1-21 1-22 1-23 1-24 1-25 1-26 1-27 ",
    "1-28 1-29 1-2a 1-2b 1-2c 1-2d 1-2e 1-2f 1-2g 1-2h 1-2i 1-2p 1-2q 1-2r 1-2s 1-2t 1-2u 1-2v ",
    "1-2w 1-2x 1-2y 1-2z 1-30 1-31 1-32 1-33 1-34 1-35 1-36 1-37 1-38 1-39 1-3a 1-3b 1-3c 1-3d ",
    "1-3e 1-1t 1-1u 1-1v 1-1w 1-1x 1-1y 1-1z 1-20 1-21 1-22 1-23 1-24 1-25 1-26 1-27 1-28 1-29 ",
    "1-2a 1-2b 1-2c 1-2d 1-2e 1-2f 1-2g 1-2h 1-2i 1-2p 1-2q 1-2r 1-2s 1-2t 1-2u 1-2v 1-2w 1-2x ",
    "1-2y 1-2z 1-30 1-31 1-32 1-33 1-34 1-35 1-36 1-37 1-38 1-39 1-3a 1-3b 1-3c 1-3d 1-3e 1-8h ",
    "1-fr 3-pd 1-pe 1-pf 1-pg 1-ph 1-pi 1-pj 1-pk 1-pl 1-pm 1-pn 1-po 1-pp 1-pq 1-pr 1-ps 1-pt ",
    "1-pk 1-pv 1-pw 1-px 1-py 1-pz 1-q0 1-q1 2-q9 1-qa 1-qb 1-qc 1-qd 1-qe 1-qf 1-qg 1-qh 1-qi ",
    "1-qj 1-qk 1-ql 1-qm 1-qn 1-qo 1-qp 1-qq 1-qr 1-qs 1-qt 1-qu 1-qv 1-qw 1-qx 2-qd 1-qg 1-qi ",
    "1-qu 1-qp 1-qo 1-pd 1-pe 1-pf 1-pg 1-ph 1-pi 1-pj 1-pk 1-pl 1-pm 1-pn 1-po 1-pp 1-pq 1-pr ",
    "1-ps 1-pt 1-pk 1-pv 1-pw 1-px 1-py 1-pz 1-q0 1-q1 2-q9 1-qa 1-qb 1-qc 1-qd 1-qe 1-qf 1-qg ",
    "1-qh 1-qi 1-qj 1-qk 1-ql 1-qm 1-qn 1-qo 1-qp 1-qq 1-qr 1-qs 1-qt 1-qu 1-qv 1-qw 1-qx 2-qd ",
    "1-qg 1-qi 1-qu 1-qp 1-qo 1-pd 1-pe 1-pf 1-pg 1-ph 1-pi 1-pj 1-pk 1-pl 1-pm 1-pn 1-po 1-pp ",
    "1-pq 1-pr 1-ps 1-pt 1-pk 1-pv 1-pw 1-px 1-py 1-pz 1-q0 1-q1 2-q9 1-qa 1-qb 1-qc 1-qd 1-qe ",
    "1-qf 1-qg 1-qh 1-qi 1-qj 1-qk 1-ql 1-qm 1-qn 1-qo 1-qp 1-qq 1-qr 1-qs 1-qt 1-qu 1-qv 1-qw ",
    "1-qx 2-qd 1-qg 1-qi 1-qu 1-qp 1-qo 1-pd 1-pe 1-pf 1-pg 1-ph 1-pi 1-pj 1-pk 1-pl 1-pm 1-pn ",
    "1-po 1-pp 1-pq 1-pr 1-ps 1-pt 1-pk 1-pv 1-pw 1-px 1-py 1-pz 1-q0 1-q1 2-q9 1-qa 1-qb 1-qc ",
    "1-qd 1-qe 1-qf 1-qg 1-qh 1-qi 1-qj 1-qk 1-ql 1-qm 1-qn 1-qo 1-qp 1-qq 1-qr 1-qs 1-qt 1-qu ",
    "1-qv 1-qw 1-qx 2-qd 1-qg 1-qi 1-qu 1-qp 1-qo 1-pd 1-pe 1-pf 1-pg 1-ph 1-pi 1-pj 1-pk 1-pl ",
    "1-pm 1-pn 1-po 1-pp 1-pq 1-pr 1-ps 1-pt 1-pk 1-pv 1-pw 1-px 1-py 1-pz 1-q0 1-q1 2-q9 1-qa ",
    "1-qb 1-qc 1-qd 1-qe 1-qf 1-qg 1-qh 1-qi 1-qj 1-qk 1-ql 1-qm 1-qn 1-qo 1-qp 1-qq 1-qr 1-qs ",
    "1-qt 1-qu 1-qv 1-qw 1-qx 2-qd 1-qg 1-qi 1-qu 1-qp 1-qo 1-rg 1-rh 3-1c 1-1d 1-1e 1-1f 1-1g ",
    "1-1h 1-1i 1-1j 1-1k 1-1l 1-1c 1-1d 1-1e 1-1f 1-1g 1-1h 1-1i 1-1j 1-1k 1-1l 1-1c 1-1d 1-1e ",
    "1-1f 1-1g 1-1h 1-1i 1-1j 1-1k 1-1l 1-1c 1-1d 1-1e 1-1f 1-1g 1-1h 1-1i 1-1j 1-1k 1-1l 1-1c ",
    "1-1d 1-1e 1-1f 1-1g 1-1h 1-1i 1-1j 1-1k 1-1l 4ch-17r 1-17s 1-17w 1-17z 2-18o 1-182 1-17x ",
    "1-187 1-18q 1-18j 1-18k 1-18l 1-18m 1-183 1-189 1-18h 1-185 1-18i 1-181 1-184 1-17u 1-17v ",
    "1-17y 1-180 1-186 1-188 1-18a 1-19q 1-1bu 1-1b5 1-19r 2-17s 1-17w 2-18n 3-17x 2-18q 1-18j ",
    "1-18k 1-18l 1-18m 1-183 1-189 1-18h 1-185 1-18i 2-184 1-17u 1-17v 1-17y 2-186 2-18a 7-17w ",
    "5-17x 2-18q 2-18k 2-18m 1-183 1-189 2-185 1-18i 2-184 3-17y 2-186 2-18a 2-1bu 2-19r 2-17s ",
    "1-17w 2-18n 3-17x 1-187 1-18q 1-18j 2-18l 1-18m 1-183 1-189 1-18h 1-185 1-18i 2-184 1-17u ",
    "1-17v 1-17y 2-186 1-188 1-18a 1-19q 2-1b5 2-17r 1-17s 1-17w 1-17z 1-18n 1-18o 1-182 1-17x ",
    "1-187 1-18q 2-18k 1-18l 1-18m 1-183 1-189 1-18h 1-185 1-18i 1-181 1-184 1-17u 1-17v 1-17y ",
    "1-180 1-186 1-188 1-18a 6-17s 1-17w 1-17z 2-18o 1-182 1-17x 1-187 1-18q 2-18k 1-18l 1-18m ",
    "1-183 1-189 1-18h 1-185 1-18i 1-181 1-184 1-17u 1-17v 1-17y 1-180 1-186 1-188 1-18a 2lx-1c ",
    "1-1d 1-1e 1-1f 1-1g 1-1h 1-1i 1-1j 1-1k 1-1l 1ds7-fgd 1-fg8 1-fgh 1-2tcy 1-fog 1-fqm 1-fqz ",
    "1-fsy 1-fwa 1-fx5 1-fzb 1-fyn 1-ae6 1-2ud6 1-g25 1-g2c 1-g2s 1-g3b 1-2u58 1-aex 1-g2v 1-g3x ",
    "1-2u6j 1-g47 1-g4k 1-fkc 1-g4s 1-g51 1-3ly7 1-g6t 1-g77 1-afz 1-g8r 1-g92 1-gaa 1-gaf 1-ahh ",
    "1-gcn 1-gcp 1-gdg 1-ge2 1-ged 1-gee 1-gev 1-gg9 1-ggh 1-ggq 1-ghf 1-ghp 1-ghr 1-ghr 1-ghr ",
    "1-2v58 1-m7k 1-gju 1-gkf 1-2vdv 1-gkr 1-gkx 1-gli 1-gpq 1-gmw 1-gnc 1-go8 1-gpu 1-gs6 1-gsw ",
    "1-gur 1-gv7 1-gw4 1-gw4 1-gwp 1-gx7 1-gxf 1-gxu 1-h7a 1-gzq 1-h7b 1-h1t 1-h2s 1-g7b 1-hke ",
    "1-hce 1-hdg 1-he5 1-haj 1-hf6 1-hf5 1-hik 1-2x9g 1-hki 1-hkn 1-hl2 1-hlm 1-hlu 1-hnm 1-2xm0 ",
    "1-2xnu 1-hrg 1-hsr 1-ht3 1-hqw 1-huu 1-aum 1-av0 1-hzc 1-i0u 1-i0u 1-2y88 1-i4j 1-i54 1-i5j ",
    "1-i5v 1-2yhk 1-i67 1-i6e 1-itv 1-i76 1-ayp 1-i8w 1-i9a 1-ibk 1-ia5 1-2z1g 1-if7 1-2z1i ",
    "1-ige 1-igb 1-igs 1-ijl 1-ijm 1-b3j 1-ikd 1-ilk 1-im5 1-ind 1-b4y 1-2zr7 1-b5o 1-ipc 1-ipf ",
    "1-ipi 1-iq2 1-3pg2 1-iri 1-3035 1-3035 1-poh 1-isi 1-isi 1-b7r 1-335k 1-3cgq 1-iua 1-iuj ",
    "1-b8j 1-ivu 1-ix9 1-ixj 1-iyh 1-j29 1-bay 1-ba4 1-j2s 1-30t0 1-j47 1-j7s 1-j7w 1-j7y 1-j7w ",
    "1-j96 1-j9q 1-jaq 1-jac 1-jan 1-jby 1-jci 1-jcm 1-jdc 1-jdn 1-jfh 1-jht 1-jis 1-jm8 1-31n0 ",
    "1-jlp 1-jjw 1-jmw 1-jnn 1-jqc 1-31td 1-js2 1-jph 1-jop 1-bhq 1-ju1 1-jum 1-jvh 1-juf 1-bjg ",
    "1-k0f 1-k18 1-32mi 1-k4j 1-kc8 1-k7d 1-bo9 1-k9d 1-bns 1-bms 1-g42 1-g45 1-kcg 1-k9o 1-pf1 ",
    "1-deh 1-kd3 1-kd7 1-kdd 1-kf2 1-ker 1-33cz 1-bpl 1-kje 1-kg5 1-klu 1-kn9 1-33hp 1-kni 1-kkf ",
    "1-kr8 1-brx 1-ksi 1-kv7 1-kx6 1-l2g 1-33xf 1-l3v 1-bvc 1-l5t 1-34br 1-l78 1-bwu 1-l82 1-l9b ",
    "1-la2 1-la3 1-34p9 1-2yvf 1-34sa 1-le6 1-354s 1-lhb 1-lhp 1-lev 1-ljq 1-lku 1-lmf 1-lkx ",
    "1-lm1 1-lmg 1-lmt 1-357i 1-lkk 1-lrj 1-lta 1-c37 1-lvv 1-lvr 1-35jl 1-lq1 1-m0e 1-35ni ",
    "1-35ou 1-m2u 1-m61 1-m5a 1-m57 1-c5y 1-m6i 1-m7x 1-m7r 1-m99 1-2u5h 1-mdh 1-368z 1-mfw ",
    "1-36i3 1-mjs 1-mk5 1-mkw 1-36yw 1-mm8 1-mmt 1-3779 1-37dg 1-mt6 1-mtn 1-cdo 1-mud 1-ce0 ",
    "1-ce0 1-myv 1-mzg 1-n01 1-n0l 1-n2i 1-cgr 1-n50 1-386u 1-n5q 1-389e 1-n74 1-2zrz 1-nbk ",
    "1-38v5 1-38vs 1-38zo 1-cn0 1-cnc 1-nhw 1-394j 1-394i 1-395l 1-396b 1-nj2 1-nj3 1-nj3 1-nka ",
    "1-cop 1-nm3 1-cp2 1-cra 1-39r1 1-nri 1-nt8 1-nv0 1-ctf 1-3a5i 1-nyu 1-3a8q 1-3a9x 1-o0f ",
    "1-o2z 1-cvj 1-o5c 1-o5m 1-o5r 1-3at8 1-3b1j 1-3b1j 1-oa6 1-d1e 1-3b8r 1-og6 1-og9 1-d2f ",
    "1-3beo 1-onm 1-d5s 1-oo8 1-oo3 1-oow 1-3c06 1-orn 1-d8h 1-ouf 1-ow2 1-oxx 1-d9w 1-3ciw ",
    "1-3cjr 1-dax 1-3cnt 1-p6i 1-3cqm 1-p79 1-pa2 1-pad 1-3d22 1-3d43 1-pcw 1-3d7s 1-pdc 1-33a7 ",
    "1-ded 1-pf6 1-phf 1-dfv 1-pj2 1-hx1 1-3dlz 1-3dmd 1-33bn 1-33bw 1-poh 1-pok 1-sda 1-dij ",
    "1-psh 1-psb 1-pst 1-gc3 1-ptd 1-ptf 1-ptp 1-puu 1-3ebg 1-put 1-pwd 1-pyb 1-q0d 1-pwj 1-q0t ",
    "1-q1z 1-q53 1-pxv 1-q16 1-q18 1-q1o 1-3eie 1-3eqz 1-3emt 1-dnv 1-q9d 1-q9f 1-qae 1-3g0a ",
    "1-qck 1-3f3g 1-dp9 1-dpd 1-3f75 1-3ff6 1-dpn 1-qj4 1-qjg 1-qjr 1-qjt 1-qll 1-qko 1-qoe ",
    "1-qn6 1-qrd 1-qp4 1-qqz 1-qrq 1-dsn 1-qu9 1-qv5 1-dtl 1-qxs 1-qxv 1-3giv 1-r13 1-r1a 1-dv9 ",
    "1-r22 1-aez 1-3gz2 1-3h46 1-dz2 1-dzb 1-rds 1-rfx 1-rka 1-rpx 1-3hrc 1-rsb 1-rsx 1-rvf ",
    "1-rxz 1-3i9b 1-2upw 1-s0b 1-rzw 1-s1c 1-2uvy 1-s7o 1-sag 1-3jki 1-3jl9 1-sk4 1-smp 1-snl ",
    "1-3ju6 1-snv 1-svs 1-t07 1-t08 1-sxo 1-t89 1-t91 1-3ksa 1-tjf 1-ej9 1-tkn 1-3l2v 1-eli ",
    "1-ts3 1-iia 1-tur 1-3ltx 1-3lzu 1-epa 1-epi 1-u00 1-3mdm 1-er6 1-3mhi 1-u17 1-u17 1-u21 ",
    "1-3mpi 1-u76 1-eur 1-u95 1-ucn 1-ude 1-uf2 1-ez2 1-3nsg 1-umq 1-uv4 1-v0d 1-f66 1-f71 1-v3b ",
    "1-3owe 1-f7c 1-3oxx 1-3p5a 1-3p8x 1-vcr 1-f9y 1-veh 1-vem 1-vet 1-vf3 1-vfa 1-vgb 1-3pxc"])

/-- Pairs that are written as one character: first, second, both in one. -/
def joinedPairs : Rows := rowsOfGaps (String.join [
    "1o-mw-6su 1-mw-6sg 1-mw-6sv 3-lc-5c 0-ld-5d 0-le-5e 0-lf-5f 0-lg-74 0-li-76 0-lj-fa 0-lk-5g ",
    "0-ll-61u 0-lm-5h 0-lo-ct 0-lr-e8 0-lt-ea 0-mb-61s 0-md-5xc 0-mg-78 1-lj-5xe 0-mb-5xg ",
    "0-mp-5xi 1-ld-7a 0-le-7c 0-lj-7e 0-lo-7g 0-mf-5j 1-lj-5xm 0-lo-7i 0-mb-5xo 0-mf-5xs ",
    "0-ml-5xu 0-mp-5xq 1-lc-5k 0-ld-5l 0-le-5m 0-lf-62k 0-lg-7m 0-li-7o 0-lj-7q 0-lk-5n 0-ll-62i ",
    "0-lo-7u 0-lr-ec 0-lt-ee 0-mb-62g 0-mf-fc 0-mg-7s 0-ml-5y0 0-mo-5y2 1-lj-5y6 1-ld-dw 0-le-7w ",
    "0-lg-5y8 0-li-7y 0-lj-80 0-lo-di 0-mf-82 1-le-84 0-lj-5ya 0-lk-5ye 0-lo-f2 0-mb-5yc ",
    "0-mf-5yg 0-mm-5yi 1-lc-5o 0-ld-5p 0-le-5q 0-lf-88 0-lg-8a 0-li-8c 0-lj-8g 0-lk-5r 0-ll-62w ",
    "0-lo-cv 0-lr-eg 0-lt-ei 0-mb-62y 0-mg-8e 0-mo-5yk 1-le-8k 1-ld-5yo 0-lo-dk 0-mb-5yq 0-mf-8m ",
    "0-mp-5ys 1-ld-8p 0-lo-8t 0-mb-5yu 0-mf-8r 0-ml-5z0 0-mp-5yy 1-ld-5z2 0-lj-5z4 0-mb-5z6 ",
    "1-lc-e0 0-ld-8z 0-lf-5t 0-lj-5z8 0-lo-93 0-mb-5za 0-mf-91 0-ml-5ze 0-mp-5zc 1-lc-5u 0-ld-5v ",
    "0-le-5w 0-lf-5x 0-lg-98 0-li-9a 0-lj-fi 0-lk-5y 0-ll-632 0-ln-9c 0-lo-cx 0-lr-ek 0-lt-em ",
    "0-m3-bk 0-mb-630 0-mg-dm 1-ld-5zo 0-lj-5zq 2-ld-9g 0-lj-5zs 0-lo-9k 0-lr-eo 0-lt-eq ",
    "0-mb-5zu 0-mf-9i 0-mp-5zy 1-ld-9m 0-le-9o 0-lj-600 0-lo-9s 0-mb-602 0-me-ew 0-mf-9q ",
    "1-lj-60a 0-lo-9w 0-mb-60c 0-me-ey 0-mf-9u 0-ml-60g 0-mp-60e 1-lc-61 0-ld-62 0-le-63 0-lf-a0 ",
    "0-lg-a2 0-li-a4 0-lk-64 0-ll-63q 0-lm-a6 0-ln-a8 0-lo-cz 0-lr-es 0-lt-eu 0-m3-bz 0-mb-63o ",
    "0-mc-60i 0-mg-aa 0-ml-60m 0-mo-60k 1-lf-60s 0-mb-60u 1-lc-60w 0-ld-60y 0-le-ac 0-lj-612 ",
    "0-lk-610 0-mb-614 1-lj-616 0-lk-618 1-lc-642 0-ld-65 0-le-ae 0-lf-648 0-lg-fm 0-lj-61a ",
    "0-lk-ag 0-ll-646 0-mb-644 1-ld-ah 0-le-61c 0-lj-aj 0-lo-al 0-mb-61e 0-mp-61g 7-lc-68 ",
    "0-ld-69 0-le-6a 0-lf-6b 0-lg-75 0-li-77 0-lj-fb 0-lk-6c 0-ll-61v 0-lm-6d 0-lo-cu 0-lr-e9 ",
    "0-lt-eb 0-mb-61t 0-md-5xd 0-mg-79 1-lj-5xf 0-mb-5xh 0-mp-5xj 1-ld-7b 0-le-7d 0-lj-7f ",
    "0-lo-7h 0-mf-6f 1-lj-5xn 0-lo-7j 0-mb-5xp 0-mf-5xt 0-ml-5xv 0-mp-5xr 1-lc-6g 0-ld-6h ",
    "0-le-6i 0-lf-62l 0-lg-7n 0-li-7p 0-lj-7r 0-lk-6j 0-ll-62j 0-lo-7v 0-lr-ed 0-lt-ef 0-mb-62h ",
    "0-mf-fd 0-mg-7t 0-ml-5y1 0-mo-5y3 1-lj-5y7 1-ld-dx 0-le-7x 0-lg-5y9 0-li-7z 0-lj-81 0-lo-dj ",
    "0-mf-83 1-le-85 0-lj-5yb 0-lk-5yf 0-lo-f3 0-mb-5yd 0-mf-5yh 0-mm-5yj 0-mp-61i 1-lc-6k ",
    "0-ld-6l 0-le-6m 0-lf-89 0-lg-8b 0-li-8d 0-lk-6n 0-ll-62x 0-lo-cw 0-lr-eh 0-lt-ej 0-mb-62z ",
    "0-mg-8f 0-mo-5yl 1-le-8l 0-lo-ds 1-ld-5yp 0-lo-dl 0-mb-5yr 0-mf-8n 0-mp-5yt 1-ld-8q 0-lo-8u ",
    "0-mb-5yv 0-mf-8s 0-ml-5z1 0-mp-5yz 1-ld-5z3 0-lj-5z5 0-mb-5z7 1-lc-e1 0-ld-90 0-lf-6p ",
    "0-lj-5z9 0-lo-94 0-mb-5zb 0-mf-92 0-ml-5zf 0-mp-5zd 1-lc-6q 0-ld-6r 0-le-6s 0-lf-6t 0-lg-99 ",
    "0-li-9b 0-lj-fj 0-lk-6u 0-ll-633 0-ln-9d 0-lo-cy 0-lr-el 0-lt-en 0-m3-bl 0-mb-631 0-mg-dn ",
    "1-ld-5zp 0-lj-5zr 2-ld-9h 0-lj-5zt 0-lo-9l 0-lr-ep 0-lt-er 0-mb-5zv 0-mf-9j 0-mp-5zz ",
    "1-ld-9n 0-le-9p 0-lj-601 0-lo-9t 0-mb-603 0-me-ex 0-mf-9r 1-lj-60b 0-lk-61j 0-lo-9x ",
    "0-mb-60d 0-me-ez 0-mf-9v 0-ml-60h 0-mp-60f 1-lc-6x 0-ld-6y 0-le-6z 0-lf-a1 0-lg-a3 0-li-a5 ",
    "0-lk-70 0-ll-63r 0-lm-a7 0-ln-a9 0-lo-d0 0-lr-et 0-lt-ev 0-m3-c0 0-mb-63p 0-mc-60j 0-mg-ab ",
    "0-ml-60n 0-mo-60l 1-lf-60t 0-mb-60v 1-lc-60x 0-ld-60z 0-le-ad 0-lj-613 0-lk-611 0-lm-61k ",
    "0-mb-615 1-lj-617 0-lk-619 1-lc-643 0-ld-71 0-le-af 0-lf-649 0-lg-fn 0-lj-61b 0-lk-73 ",
    "0-ll-647 0-lm-61l 0-mb-645 1-ld-ai 0-le-61d 0-lj-ak 0-lo-am 0-mb-61f 0-mp-61h 1a-lc-6b1 ",
    "0-ld-p1 0-n6-69t q-lc-61y 0-ld-61w 0-lf-622 0-ll-620 2-lg-da 1-ld-e2 1-ld-e4 0-lg-de ",
    "1-ld-5xk 3-lc-62o 0-ld-62m 0-lf-62s 0-ll-62q 5-ld-5ym 5-lc-636 0-ld-634 0-lf-63a 0-ll-638 ",
    "1-ld-5zg 0-lg-fg 0-lk-5zi 1-lg-fe 2-ld-e6 4-lc-d7 0-ld-d3 0-lg-d1 0-lo-d5 6-lc-61z 0-ld-61x ",
    "0-lf-623 0-ll-621 2-lg-db 1-ld-e3 1-ld-e5 0-lg-df 1-ld-5xl 3-lc-62p 0-ld-62n 0-lf-62t ",
    "0-ll-62r 5-ld-5yn 5-lc-637 0-ld-635 0-lf-63b 0-ll-639 1-ld-5zh 0-lg-fh 0-lk-5zj 1-lg-ff ",
    "2-ld-e7 4-lc-d8 0-ld-d4 0-lg-d2 0-lo-d6 6-lc-628 0-ld-626 0-lf-62c 0-ll-62a 1-lc-629 ",
    "0-ld-627 0-lf-62d 0-ll-62b f-lc-5xw 0-ld-5xy 1-lc-5xx 0-ld-5xz 1l-lc-5zk 0-ld-5zm 1-lc-5zl ",
    "0-ld-5zn d-lj-604 1-lj-605 5-lj-606 1-lj-607 7-ld-60o 1-ld-60p 1-lk-60q 1-lk-60r k-lj-61n ",
    "x-lc-63g 0-ld-63e 0-lf-63k 0-ll-63i 0-mb-63m 1-lc-63h 0-ld-63f 0-lf-63l 0-ll-63j 0-mb-63n ",
    "e-lc-63u 0-ld-63s 0-lf-63y 0-ll-63w 0-mb-640 1-lc-63v 0-ld-63t 0-lf-63z 0-ll-63x 0-mb-641 ",
    "7-lo-dq 1f-lg-do 1-lg-dp 1n-lg-dc 1-lg-dd 1-li-5y4 1-li-5y5 5-lg-fk 1-lg-fl 2r-lo-dr ",
    "73-lc-69m 0-ld-p2 0-lg-69l 0-li-69k 0-lv-64o 0-lw-64p 0-n9-69o 4-lc-6a0 0-ld-p4 0-lv-654 ",
    "0-lw-655 2-lc-6a2 0-ld-p5 0-lv-65k 0-lw-65l 0-n9-6a4 2-lc-6ai 0-ld-p6 0-lg-6ah 0-li-6ag ",
    "0-lk-q2 0-lv-660 0-lw-661 6-lc-6bc 0-ld-p8 0-lv-66g 0-lw-66h 2-lw-6b0 4-lc-6ay 0-ld-pa ",
    "0-lg-6ax 0-li-6aw 0-lk-q3 0-lw-66x 4-lc-6be 0-ld-pb 0-lv-67c 0-lw-67d 0-n9-6bg 3-n9-69g ",
    "2-n9-69w 3-lc-67k 0-ld-q4 0-lg-69d 0-li-69c 0-lv-64g 0-lw-64h 0-n6-69i 0-n9-69f 4-lc-67m ",
    "0-ld-q5 0-lv-64w 0-lw-64x 2-lc-67o 0-ld-q6 0-lv-65c 0-lw-65d 0-n6-69y 0-n9-69v 2-lc-67q ",
    "0-ld-q7 0-lg-6a9 0-li-6a8 0-lk-qy 0-lv-65s 0-lw-65t 0-n6-6ae 6-lc-67s 0-ld-r0 0-lv-668 ",
    "0-lw-669 2-lv-6as 0-lw-6at 4-lc-67u 0-ld-r1 0-lg-6ap 0-li-6ao 0-lk-qz 0-lv-66o 0-lw-66p ",
    "0-n6-6au 4-lc-67w 0-ld-r2 0-lv-674 0-lw-675 0-n6-6ba 0-n9-6b7 1-lc-6aa 0-ld-pc 0-n6-6af ",
    "1-lc-6aq 0-ld-q8 0-n6-6av 3-n9-6b8 4-ld-r7 0-lk-r8 1g-lk-sn a-li-y8 0-lk-ya 3-ld-sj 2-lc-sg ",
    "0-li-ye 0-lk-sh 1-li-xt 0-lk-yk 1-lk-ym 1-lc-st 0-lg-yq 0-li-t5 0-lk-ys 2-ld-ss 4-lk-yu ",
    "5-lg-z2 0-li-su 0-lk-z4 0-ln-z6 4-lk-z8 4-lk-zc 2-lk-z0 3-li-y9 0-lk-yb 3-ld-ur 2-lc-uo ",
    "0-li-yf 0-lk-up 1-li-xu 0-lk-yl 1-lk-yn 1-lc-v1 0-lg-yr 0-li-u1 0-lk-yt 2-ld-v0 4-lk-yv ",
    "5-lg-z3 0-li-v2 0-lk-z5 0-ln-z7 4-lk-z9 4-lk-zd 2-lk-z1 9-lk-uv u-lr-vq 1-lr-vr 2r-lk-yi ",
    "1-lk-yj f-lk-yy 1-lk-yz 8u-18z-17m 0-190-17n 0-191-17p x-190-17o 2-190-17q 3b-190-1c2 ",
    "h-190-1cj 3-190-1c0 gj-1to-1t5 8-1to-1td 3-1to-1tg 44-1xa-1xn 0-1xz-1xo ao-27y-28b ",
    "0-28m-288 0-28n-28c 23-2c7-2ac 1g-2bi-2bu 0-2c7-2bw 1-2bi-2bv 3j-2fq-2fc 3d-2j9-2io ",
    "7-2iq-2iy 0-2j9-2iv 0-2ja-2iw 4-2j9-2iz 3g-2m6-2mi 0-2mv-2mk 1-2m6-2mj 42-2q2-2qi 0-2q7-2qk ",
    "0-2qn-2qm 3-2q2-2ql g9-372-36u 25c-5dh-5c6 2-5dh-5c8 2-5dh-5ca 2-5dh-5cc 2-5dh-5ce ",
    "4-5dh-5ci 15-5dh-5dn 2-5dh-5dp 2-5dh-5ds 1-5dh-5dt 3-5dh-5dv l0-lg-5yw 1-lg-5yx z-lg-5zw ",
    "1-lg-5zx 7-lj-608 1-lj-609 1p-le-624 0-li-62e 1-le-625 0-li-62f n-le-62u 1-le-62v j-le-63c ",
    "1-le-63d 1f-lc-64i 0-ld-64k 0-n6-64m 0-n9-680 1-lc-64j 0-ld-64l 0-n6-64n 0-n9-681 1-n9-682 ",
    "1-n9-683 1-n9-684 1-n9-685 1-n9-686 1-n9-687 1-lc-64q 0-ld-64s 0-n6-64u 0-n9-688 1-lc-64r ",
    "0-ld-64t 0-n6-64v 0-n9-689 1-n9-68a 1-n9-68b 1-n9-68c 1-n9-68d 1-n9-68e 1-n9-68f 1-lc-64y ",
    "0-ld-650 1-lc-64z 0-ld-651 7-lc-656 0-ld-658 1-lc-657 0-ld-659 7-lc-65e 0-ld-65g 0-n6-65i ",
    "0-n9-68g 1-lc-65f 0-ld-65h 0-n6-65j 0-n9-68h 1-n9-68i 1-n9-68j 1-n9-68k 1-n9-68l 1-n9-68m ",
    "1-n9-68n 1-lc-65m 0-ld-65o 0-n6-65q 0-n9-68o 1-lc-65n 0-ld-65p 0-n6-65r 0-n9-68p 1-n9-68q ",
    "1-n9-68r 1-n9-68s 1-n9-68t 1-n9-68u 1-n9-68v 1-lc-65u 0-ld-65w 0-n6-65y 1-lc-65v 0-ld-65x ",
    "0-n6-65z 7-lc-662 0-ld-664 0-n6-666 1-lc-663 0-ld-665 0-n6-667 7-lc-66a 0-ld-66c 1-lc-66b ",
    "0-ld-66d 7-lc-66i 0-ld-66k 1-lc-66j 0-ld-66l 7-lc-66q 0-ld-66s 0-n6-66u 1-lc-66r 0-ld-66t ",
    "0-n6-66v 8-lc-66z 0-ld-671 0-n6-673 7-lc-676 0-ld-678 0-n6-67a 0-n9-68w 1-lc-677 0-ld-679 ",
    "0-n6-67b 0-n9-68x 1-n9-68y 1-n9-68z 1-n9-690 1-n9-691 1-n9-692 1-n9-693 1-lc-67e 0-ld-67g ",
    "0-n6-67i 0-n9-694 1-lc-67f 0-ld-67h 0-n6-67j 0-n9-695 1-n9-696 1-n9-697 1-n9-698 1-n9-699 ",
    "1-n9-69a 1-n9-69b 1-n9-69e 4-n9-69u 8-n9-6b6 1m-n9-69j 9-lc-6a5 0-ld-6a6 0-n6-6a7 7-n9-69z ",
    "1c-n9-6bb 8-lc-6al 0-ld-6am 0-n6-6an b6-mw-6my 2-mw-6mz 2-mw-6ni 1o-mw-6od 2-mw-6of ",
    "2-mw-6oe 1b-mw-6pw 5-mw-6q1 3-mw-6q4 o-mw-6qs 2-mw-6qu n-mw-6rl 7-mw-6ro 2-mw-6rr 3-mw-6rt ",
    "5-mw-6st k-mw-6si 3-mw-6sw 1-mw-6sx d-mw-6t0 1-mw-6t1 3-mw-6t4 1-mw-6t5 3-mw-6tc 1-mw-6td ",
    "1-mw-6w0 1-mw-6w1 5-mw-6tg 1-mw-6th 3-mw-6tk 1-mw-6tl a-mw-6w2 1-mw-6w3 g-mw-6uk 6-mw-6ul ",
    "1-mw-6um 2-mw-6un 7-mw-6wa 1-mw-6wb 1-mw-6wc 1-mw-6wd 2oh-9ll-9lg 5-9ll-9jg 2-9ll-9ji ",
    "2-9ll-9jk 2-9ll-9jm 2-9ll-9jo 2-9ll-9jq 2-9ll-9js 2-9ll-9ju 2-9ll-9jw 2-9ll-9jy 2-9ll-9k0 ",
    "2-9ll-9k2 3-9ll-9k5 2-9ll-9k7 2-9ll-9k9 7-9ll-9kg 0-9lm-9kh 3-9ll-9kj 0-9lm-9kk 3-9ll-9km ",
    "0-9lm-9kn 3-9ll-9kp 0-9lm-9kq 3-9ll-9ks 0-9lm-9kt y-9ll-9lq 9-9ll-9o4 5-9ll-9m4 2-9ll-9m6 ",
    "2-9ll-9m8 2-9ll-9ma 2-9ll-9mc 2-9ll-9me 2-9ll-9mg 2-9ll-9mi 2-9ll-9mk 2-9ll-9mm 2-9ll-9mo ",
    "2-9ll-9mq 3-9ll-9mt 2-9ll-9mv 2-9ll-9mx 7-9ll-9n4 0-9lm-9n5 3-9ll-9n7 0-9lm-9n8 3-9ll-9na ",
    "0-9lm-9nb 3-9ll-9nd 0-9lm-9ne 3-9ll-9ng 0-9lm-9nh k-9ll-9o7 1-9ll-9o8 1-9ll-9o9 1-9ll-9oa ",
    "b-9ll-9oe 1864-1hve-1hui 2-1hve-1huk a-1hve-1huz 3w-1hyf-1hym 1-1hyf-1hyn et-1ida-1idn ",
    "0-1idz-1ido aa-1ink-1inw 0-1inu-1inv 0-1inx-1iny 73-1iun-1iuy 1-1iun-1iuz os-1jjk-1jjs"])

/-- Marks that are put in order: the first of a run, how many there are, and their rank. -/
def markRuns : Rows := rowsOfGaps (String.join [
    "lc-l-6e l-1-6g 1-4-64 4-1-6g 1-1-60 1-5-64 5-2-5m 2-4-64 4-2-5m 2-b-64 b-5-1 5-4-64 4-8-6e ",
    "8-1-6o 1-1-6e 1-3-64 3-3-6e 3-2-64 3-3-6e 3-4-64 4-1-6e 1-1-6g 1-2-64 2-1-6e 1-1-6h 1-2-6i ",
    "2-1-6h 1-2-6i 2-1-6h 1-d-6e 80-5-6e 7i-1-64 1-4-6e 4-1-64 1-3-6e 3-1-66 1-1-64 1-6-6e ",
    "6-6-64 6-2-6e 2-1-64 1-2-6e 2-1-66 1-1-6c 1-1-6e 1-1-a 1-1-b 1-1-c 1-1-d 1-1-e 1-1-f 1-1-g ",
    "1-1-h 1-1-i 1-2-j 2-1-k 1-1-l 1-1-m 2-1-n 2-1-o 1-1-p 2-1-6e 1-1-64 2-1-i 21-8-6e 8-1-u ",
    "1-1-v 1-1-w 1d-1-r 1-1-s 1-1-t 1-1-u 1-1-v 1-1-w 1-1-x 1-1-y 1-2-6e 2-2-64 2-5-6e 5-1-64 ",
    "1-2-6e 2-1-64 h-1-z 2u-7-6e 9-4-6e 4-1-64 1-1-6e 3-2-6e 3-1-64 1-2-6e 2-1-64 10-1-10 v-1-6e ",
    "1-1-64 1-2-6e 2-1-64 1-2-6e 2-3-64 3-1-6e 1-2-64 2-1-6e 1-1-64 1-3-6e 3-1-64 1-1-6e 1-1-64 ",
    "1-1-6e 1-1-64 1-1-6e 1-1-64 1-2-6e 4i-7-6e 7-1-64 1-1-6e a-1-64 p-4-6e 5-9-6e a-3-6e 4-5-6e ",
    "1c-3-64 1r-1-6e 1-3-64 3-4-6e 1a-5-6e 5-5-64 5-e-6e f-1-64 1-2-6e 2-1-64 1-2-6e 2-1-64 ",
    "1-3-6e 3-3-64 3-1-r 1-1-s 1-1-t 1-3-6e 3-1-64 1-2-6e 2-2-64 2-5-6e 1t-1-7 h-1-9 4-1-6e ",
    "1-1-64 1-2-6e 2x-1-7 h-1-9 1d-1-6e 1q-1-7 h-1-9 33-1-7 h-1-9 33-1-7 h-1-9 3k-1-9 33-1-7 ",
    "h-1-9 8-1-2c 1-1-2j 2u-1-7 h-1-9 32-2-9 i-1-9 3h-1-9 32-2-2v 2-1-9 e-4-2z 34-2-3a 2-1-9 ",
    "e-4-3e 28-2-64 t-1-64 2-1-64 2-1-60 1k-1-3l 1-1-3m 2-1-3o 6-4-3m 6-1-3m 2-2-6e 2-1-9 2-2-6e ",
    "1s-1-64 35-1-7 2-2-9 2c-1-64 k0-3-6e qf-2-9 w-1-9 4e-1-9 b-1-6e 5o-1-6c 40-1-66 1-1-6e ",
    "1-1-64 64-1-6e 1-1-64 20-1-9 l-8-6e a-1-64 1d-5-6e 5-6-64 6-2-6e 2-1-64 2-2-64 2-2-6e ",
    "2-2-64 2-5-6e 5-1-64 1-4-6e 2x-1-7 g-1-9 13-1-6e 1-1-64 1-7-6e 1p-2-9 1o-1-7 c-2-9 1x-1-7 ",
    "49-3-6e 4-1-1 1-5-64 5-2-6e 2-4-64 4-1-6e 2-7-1 b-1-64 7-1-6e 4-2-6e 5k-2-6e 2-1-64 1-7-6e ",
    "7-1-64 1-2-6e 2-1-6i 1-1-5y 1-1-64 1-1-5m 1-11-6e 11-1-6g 1-2-6c 2-1-64 1-1-62 1-1-6e ",
    "1-1-6h 1-1-64 1-1-6e 1-1-64 k1-2-6e 2-2-1 2-4-6e 4-3-1 3-2-6e 6-1-6e 4-2-1 2-1-6e 1-1-64 ",
    "1-1-6e 1-2-1 2-4-64 4-1-6e 2db-3-6e 40-1-9 2p-w-6e ga-1-62 1-1-6c 1-1-6g 1-1-66 1-2-68 ",
    "2z-2-8 n9y-1-6e 5-a-6e 16-2-6e 2a-2-6e 7q-1-9 12-1-9 48-1-9 s-i-6e 23-3-64 14-1-9 2o-1-7 ",
    "d-1-9 6o-1-6e 2-2-6e 2-1-64 3-2-6e 7-2-6e 3-1-6e 1h-1-9 6v-1-9 fn5-1-q le-7-6e 7-7-64 ",
    "7-2-6e r3-1-64 6b-1-64 46-5-6e 1av-1-64 2-1-6e 15-1-6e 1-1-1 1-1-64 5-1-9 4m-1-6e 1-1-64 ",
    "fy-4-6e av-2-6e 4b-2-64 2-3-6e 3-1-64 1-1-6e 1-4-64 1h-1-6e 1-1-64 1-1-6e 1-1-64 5d-1-9 ",
    "16-1-9 f-1-9 1m-1-9 1-1-7 1y-3-6e 1f-2-9 1s-1-7 25-1-9 a-1-7 2z-1-9 1-1-7 4z-1-7 1-1-9 ",
    "29-2-7 i-1-9 p-7-6e a-5-6e 5u-1-9 4-1-7 o-1-6e 2s-1-9 1-1-7 70-1-9 1-1-7 3j-1-9 3b-1-9 ",
    "1-1-7 38-1-9 7i-1-9 1-1-7 77-2-9 6-1-7 4d-1-9 2c-1-9 j-1-9 2a-1-9 bq-1-9 77-1-7 2-2-9 ",
    "2b-1-9 fa1-5-1 1s-7-6e xs-2-6 f5a-1-1 43r-2-60 2-3-1 6-1-6a 1-5-60 d-8-64 a-5-6e 5-2-64 ",
    "w-4-6e 48-3-6e 2pq-7-6e 8-h-6e j-7-6e 8-2-6e 3-5-6e 7e-7-6e am-1-6e 1q-4-6e 15w-7-64 ",
    "38-6-6e 6-1-7"])

/-- The rank of a mark; zero for every other character. -/
def markRank (point : Nat) : Nat :=
  match rowBelow? markRuns point with
  | some [start, count, rank] => if point < start + count then rank else 0
  | _ => 0

/-- The plainest spelling of a character. -/
def plain (point : Nat) : List Nat :=
  if 0xAC00 ≤ point ∧ point ≤ 0xD7A3 then
    let syllable := point - 0xAC00
    let head := [0x1100 + syllable / 588, 0x1161 + syllable % 588 / 28]
    if syllable % 28 = 0 then head else head ++ [0x11A7 + syllable % 28]
  else
    match rowBelow? plainSpellings point with
    | some (p :: spelling) => if p = point then spelling else [point]
    | _ => [point]

/-- Puts a mark behind the marks of at most its rank at the end of the list in reverse. -/
def insertMark (mark : Nat) : List Nat → List Nat
  | [] => [mark]
  | last :: rest =>
    if markRank last ≠ 0 ∧ markRank mark < markRank last then last :: insertMark mark rest
    else mark :: last :: rest

/-- Marks in their fixed order. -/
def orderMarks (points : List Nat) : List Nat :=
  (points.foldl (fun done p => if markRank p = 0 then p :: done else insertMark p done) []).reverse

/-- The character that stands for two. -/
def join? (first second : Nat) : Option Nat :=
  if 0x1100 ≤ first ∧ first < 0x1113 ∧ 0x1161 ≤ second ∧ second < 0x1176 then
    some (0xAC00 + ((first - 0x1100) * 21 + (second - 0x1161)) * 28)
  else if 0xAC00 ≤ first ∧ first ≤ 0xD7A3 ∧ (first - 0xAC00) % 28 = 0 ∧ 0x11A7 < second ∧ second < 0x11C3 then
    some (first + (second - 0x11A7))
  else
    -- the rows for one first character stand together
    let stop := rowRank joinedPairs first 0 joinedPairs.size
    let start := if first = 0 then 0 else rowRank joinedPairs (first - 1) 0 joinedPairs.size
    ((joinedPairs.extract start stop).toList.find? fun row => row[1]? == some second).bind (·[2]?)

/-- Joins each mark to the letter before it where both have one character.  `letter` is the last
letter, `marks` what stands behind it in reverse, `rank` the rank of the last mark kept. -/
def joinAll : List Nat → Option Nat → List Nat → Nat → List Nat
  | [], letter, marks, _ => letter.toList ++ marks.reverse
  | p :: rest, letter, marks, rank =>
    let own := markRank p
    let joined := match letter with
      | some l => if marks.isEmpty || (rank < own && rank ≠ 0) then join? l p else none
      | none => none
    match joined with
    | some both => joinAll rest (some both) marks rank
    | none =>
      if own = 0 then (letter.toList ++ marks.reverse) ++ joinAll rest (some p) [] 0
      else joinAll rest letter (p :: marks) own

/-- The one spelling of a word. -/
def compatible (word : List Char) : List Char :=
  (joinAll (orderMarks (word.flatMap fun c => plain c.toNat)) none [] 0).map Char.ofNat

end CallChain.Text
