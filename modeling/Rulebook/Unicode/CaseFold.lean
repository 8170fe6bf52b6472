import Rulebook.Text.Ranges

/-!
# Characters that differ in case only

Two characters are equivalent when their simple case foldings are the same. Most classes are pairs, and
pairs come in runs: a first character, the distance to its partner, the step to the next pair and the
number of pairs. The larger classes are listed with their sizes.
-/

namespace Rulebook

def casePairLines : List String := [
  "1t w 1 a 24 w 2 8 25 w 1 6 2d w 1 6 5c w 2 g 5d w 1 4 5j w 1 g 61 w 1 6 67 5vj 1 1 73 3d 1 1",
  "74 1 2 o 8i 1 2 3 8p 1 2 8 96 1 2 n ah 1 2 3 ao 5f 1 1 ap 5u 1 1 aq 1 2 2 au 5q 1 1 av 1 1 1",
  "ax 5p 1 2 az 1 1 1 b2 27 1 1 b3 5m 1 1 b4 5n 1 1 b5 1 1 1 b7 5p 1 1 b8 5r 1 1 b9 2p 1 1 ba 5v",
  "1 1 bb 5t 1 1 bc 1 1 1 be 4j 1 1 bg 5v 1 1 bh 5x 1 1 bi 3m 1 1 bj 5y 1 1 bk 1 2 3 bq 62 1 1 br",
  "1 1 1 bt 62 1 1 bw 1 1 1 by 62 1 1 bz 1 1 1 c1 61 1 2 c3 1 2 2 c7 63 1 1 c8 1 1 1 cc 1 1 1 cf",
  "1k 1 1 ct 1 2 8 da 1 2 9 dw 1 1 1 e0 1 2 k f6 1 2 9 fu 8bv 1 1 fv 1 1 1 fy 8bs 1 1 fz 8cf 1 2",
  "g1 1 1 1 g4 1x 1 1 g5 1z 1 1 g6 1 2 5 gg 8bj 1 1 gh 8bg 1 1 gi 8bi 1 1 gs wnj 1 1 gx wnf 1 1",
  "h1 wmg 1 1 h2 wn8 1 1 h6 wn8 1 1 h7 8af 1 1 h8 wn5 1 1 hd 8al 1 1 hp 89z 1 1 hu wn7 1 1 hz wmi",
  "1 1 il wlx 1 1 im wlu 1 1 og 1 2 2 om 1 1 1 or 3m 1 3 ov 38 1 1 p2 12 1 1 p4 11 1 3 p8 1s 1 1",
  "pa 1r 1 2 pd w 2 2 pg w 2 2 pj w 1 1 pn w 2 3 pq w 1 2 pw w 1 2 pz w 1 2 q2 w 1 2 r3 8 1 1 rc",
  "1 2 c s2 7 1 1 s7 1 1 1 sa 1 1 1 sg 28 1 g sw w 1 2 sz w 2 7 t2 w 1 8 tc w 1 1 tf w 1 7 tn w 1",
  "5 v4 1 1 1 v8 1 2 f wa 1 2 r xs f 1 1 xt 1 2 7 y8 1 2 1c 10x 1c 1 12 3a8 5ls 1 12 3bb 5ls 1 1",
  "3bh 5ls 1 1 3bk 2bk 1 17 3ct 2bk 1 3 3vk tzk 1 28 3xs 8 1 6 5tl r9g 1 1 5tp 2xy 1 1 5u6 raw 1",
  "1 5xc 1 2 1c 602 1 2 q 61s 1 2 1c 64g 8 1 8 64w 8 1 6 65c 8 1 8 65s 8 1 8 668 8 1 6 66p 8 2 4",
  "674 8 1 8 67k 22 1 2 67m 2e 1 4 67q 2s 1 2 67s 3k 1 2 67u 34 1 2 67w 3i 1 2 680 8 1 8 68g 8 1",
  "8 68w 8 1 8 69c 8 1 2 69f 9 1 1 69v 9 1 1 6a8 8 1 2 6ao 8 1 2 6at 7 1 1 6b7 9 1 1 6k2 s 1 1",
  "6lc g 1 g 6mb 1 1 1 792 q 1 q 8ow 1c 1 1c 8rk 1 1 1 8rr 1 2 3 8s2 1 1 1 8s5 1 1 1 8sg 1 2 1e",
  "8vf 1 2 2 8vm 1 1 1 wu8 1 2 5 wuk 1 2 h ww0 1 2 e x0i 1 2 7 x0y 1 2 v x2x 1 2 2 x32 1 2 5 x3f",
  "1 1 1 x3k 1 2 2 x3o 1c 1 1 x3q 1 2 a x4j ps 1 1 x4k 1 2 8 x53 1 2 2 x5c 1 1 1 x5i 1 2 2 x6d 1",
  "1 1 1ee9 w 1 q 1fcw 14 1 14 1fhs 14 1 10 1fn4 13 2 j 1fn5 13 1 a 1fnh 13 1 e 1fnx 13 1 6 1fo5",
  "13 1 1 1h1c 1s 1 1f 1jfk w 1 w 20cg w 1 w 2olc y 1 y"]

def caseClassLines : List String := [
  "3 23 2z 6ju 3 2b 37 an 3 51 po qk 3 5h 6d 6jv 3 ck cl cm 3 cn co cp 3 cq cr cs 3 dt du dv 4 n9",
  "pl qh 69q 3 pe qa r4 3 ph qd s5 4 pk qg r5 s4 3 pm qi s0 3 ps qo ra 3 pt qp s1 3 pv qq qr 3 py",
  "qu r9 3 q1 qx 6jq 3 sy tu 5mo 3 t0 tw 5mp 3 ta u6 5mq 3 td u9 5mr 4 te ua 5ms 5mt 3 tm ui 5mu",
  "3 v6 v7 5mv 3 5mw wui wuj 3 600 601 61n"]

/-- The pairs of the runs, as code points. -/
def casePairs : List Nat → List (List Nat)
  | first :: distance :: step :: count :: rest =>
    (List.range count).map (fun i => [first + i * step, first + i * step + distance]) ++
      casePairs rest
  | _ => []

/-- Splits off classes, each preceded by its size; `n` bounds their number. -/
def caseClassesOf : Nat → List Nat → List (List Nat)
  | n + 1, size :: rest => rest.take size :: caseClassesOf n (rest.drop size)
  | _, _ => []

/-- The classes of equivalent characters that have more than one member. -/
def caseClasses : List (List Nat) :=
  casePairs (casePairLines.flatMap fun l => (Ranges.numbers l).toList) ++
    caseClassesOf 100 (caseClassLines.flatMap fun l => (Ranges.numbers l).toList)

end Rulebook
