import Rulebook.Text.Ranges

/-!
# Characters that domains write otherwise

The characters beyond ASCII that are replaced when a domain is brought to its canonical form, and of
these the ones whose replacement holds a character of ASCII: the gap since the last run, how many more
characters the run has than one, the number of characters of the replacement, and these. In a run of
several characters each is replaced by the character after the last one's.
-/

namespace Rulebook.Url

def mappedLines : List String := [
  "4g 0 7 0 1 0 4 0 2 3 2 2 1 2 1 m 1 6 x 0 1 0 1 0 1 0 1 0 1 0 1 0 1 0 1 0 1 0 1 0 1 0 1 0 1 0 1",
  "0 1 0 1 0 1 0 1 0 1 0 1 0 1 0 1 0 1 0 1 0 1 2 1 0 2 0 1 0 1 0 1 2 1 0 1 0 1 0 1 1 1 0 1 0 1 0",
  "1 0 1 0 1 0 1 0 1 0 1 0 1 0 1 0 1 0 1 0 1 0 1 0 1 0 1 0 1 0 1 0 1 0 1 0 1 0 1 1 1 0 1 0 1 0 1",
  "1 1 0 1 1 1 2 2 3 1 1 1 2 3 1 1 1 1 0 1 0 1 1 1 0 2 0 1 1 1 2 1 0 1 1 3 0 7 9 1 0 1 0 1 0 1 0",
  "1 0 1 0 1 0 2 0 1 0 1 0 1 0 1 0 1 0 1 0 1 0 1 0 2 3 1 2 1 0 1 0 1 0 1 0 1 0 1 0 1 0 1 0 1 0 1",
  "0 1 0 1 0 1 0 1 0 1 0 1 0 1 0 1 0 1 0 1 0 1 0 1 0 1 0 1 0 1 0 1 0 1 0 1 0 1 0 7 1 1 1 2 0 1 3",
  "1 0 1 0 1 0 1 0 2p 8 v 5 2 4 2j 1 1 2 16 0 1 0 1 0 1 0 3 0 3 1 4 6 1 0 1 1 1 g 1 8 z 7 1 0 1 0",
  "1 0 1 0 1 0 1 0 1 0 1 0 1 0 1 0 1 0 1 0 1 2 1 1 1 0 1 1 2 1e 1c 0 1 0 1 0 1 0 1 0 1 0 1 0 1 0",
  "1 0 1 0 1 0 1 0 1 0 1 0 1 0 1 0 1 0 9 0 1 0 1 0 1 0 1 0 1 0 1 0 1 0 1 0 1 0 1 0 1 0 1 0 1 0 1",
  "0 1 0 1 0 1 0 1 0 1 0 1 0 1 0 1 0 1 0 1 0 1 0 1 0 1 1 1 0 1 0 1 0 1 0 1 0 1 0 2 0 1 0 1 0 1 0",
  "1 0 1 0 1 0 1 0 1 0 1 0 1 0 1 0 1 0 1 0 1 0 1 0 1 0 1 0 1 0 1 0 1 0 1 0 1 0 1 0 1 0 1 0 1 0 1",
  "0 1 0 1 0 1 0 1 0 1 0 1 0 1 0 1 0 1 0 1 0 1 0 1 0 1 0 1 0 1 0 1 0 1 0 1 0 1 0 1 0 2 11 1c 0 6l",
  "3 kf 7 3g 1 1 0 2b 0 2 0 y 2 2 0 71 1 k5 0 3j 0 14 1 1a 0 1i 0 9 0 4 0 4 0 4 0 c 0 9 0 1 4 7 0",
  "h 0 9 0 4 0 4 0 4 0 c 0 6e 11 1 0 5 0 1a 0 l7 5 1oi 8 7 16 2 2 30 2 1 a 1 h 1 r d 0 y 10 1s 0",
  "1 0 1 0 1 0 1 0 1 0 1 0 1 0 1 0 1 0 1 0 1 0 1 0 1 0 1 0 1 0 1 0 1 0 1 0 1 0 1 0 1 0 1 0 1 0 1",
  "0 1 0 1 0 1 0 1 0 1 0 1 0 1 0 1 0 1 0 1 0 1 0 1 0 1 0 1 0 1 0 1 0 1 0 1 0 1 0 1 0 1 0 1 0 1 0",
  "1 0 1 0 1 0 1 0 1 0 1 0 1 0 1 0 1 0 1 0 1 0 1 0 1 0 1 0 1 0 1 0 1 0 1 0 1 0 1 0 1 0 1 0 1 0 1",
  "0 1 0 1 0 1 0 5 1 4 0 1 0 1 0 1 0 1 0 1 0 1 0 1 0 1 0 1 0 1 0 1 0 1 0 1 0 1 0 1 0 1 0 1 0 1 0",
  "1 0 1 0 1 0 1 0 1 0 1 0 1 0 1 0 1 0 1 0 1 0 1 0 1 0 1 0 1 0 1 0 1 0 1 0 1 0 1 0 1 0 1 0 1 0 1",
  "0 1 0 1 0 1 0 1 0 1 0 9 7 8 5 a 7 8 7 8 5 b 0 1 0 1 0 1 0 8 7 1 0 1 0 1 0 1 0 1 0 1 0 1 0 2 1b",
  "2 2 2 d 2 8 3 0 4 3 1 2 3 0 4 7 2 2 2 7 1 a 6 0 5 0 c 2 8 0 3 1 1 1 4 0 1 0 8 2 d 0 7 0 g 1 2",
  "q 1 c b 0 2f 3 1 2 1 a 1 1 2 4 2 2 1 0 1 0 1 0 1 3 1 a 1 5 4 4 6 1b 3 0 5 0 4i 1 1 1 6w 1 8l",
  "3u 10h 0 2v 2 2t 0 83 1b 1c 0 1 2 2 0 1 0 1 0 1 3 1 0 2 0 6 4 1 0 1 0 1 0 1 0 1 0 1 0 1 0 1 0",
  "1 0 1 0 1 0 1 0 1 0 1 0 1 0 1 0 1 0 1 0 1 0 1 0 1 0 1 0 1 0 1 0 1 0 1 0 1 0 1 0 1 0 1 0 1 0 1",
  "0 1 0 1 0 1 0 1 0 1 0 1 0 1 0 1 0 1 0 1 0 1 0 1 0 1 0 1 0 1 0 1 0 1 0 8 0 1 0 4 0 3g 0 8f 0 2b",
  "0 c 5x 16 0 1h 0 1 2 2o 1 2 0 2n 0 1d 1e 1 15 3 d 2o u 1 13 8 1a 1 an mkg 0 1 0 1 0 1 0 1 0 1",
  "0 1 0 1 0 1 0 1 0 1 0 1 0 1 0 1 0 1 0 1 0 1 0 1 0 1 0 1 0 1 0 1 0 1 0 j 0 1 0 1 0 1 0 1 0 1 0",
  "1 0 1 0 1 0 1 0 1 0 1 0 1 0 1 0 1 1 3o 0 1 0 1 0 1 0 1 0 1 0 1 0 3 0 1 0 1 0 1 0 1 0 1 0 1 0 1",
  "0 1 0 1 0 1 0 1 0 1 0 1 0 1 0 1 0 1 0 1 0 1 0 1 0 1 0 1 0 1 0 1 0 1 0 1 0 1 0 1 0 1 0 1 0 1 0",
  "1 0 8 0 1 0 1 1 1 0 1 0 1 0 1 0 4 0 1 0 2 0 1 0 3 0 1 0 1 0 1 0 1 0 1 0 1 0 1 0 1 0 1 0 1 4 1",
  "4 1 0 1 0 1 0 1 0 1 0 1 0 1 0 1 3 1 0 6 0 5 0 1 0 p 3 2 1 o2 3 9 0 6 27 f9c 7h 2 0 1 0 2 9 1 0",
  "1 0 2 1 3 1v 2 2x 12 6 c 4 5 0 1 n 1 4 1 0 1 1 1 1 1 2z x a2 i 1r 2 1h 14 c j 9 m k 2 b 1 i 1",
  "3 4 2 1 0 1 3q 4 4e 1 t 3 5 2 5 2 5 2 2 3 6 1 6 sx 13 3s z 4c a 1 e 1 6 1 1 dn 4 1 15 1 8 xx",
  "1e 2ct v gw0 v jjy 6 2e 5 fz 2c 1 1y 1 1 2 0 2 1 2 3 1 b 1 0 1 6 1 1s 1 3 2 7 1 6 1 r 1 3 1 4",
  "1 0 3 6 1 9f 2 83 2 1d 1m8 1p 1oy x ym 3 1 q 1 1 1 0 2 0 1 9 1 3 1 0 1 0 6 0 4 0 1 0 1 0 1 2 1",
  "1 1 0 2 0 1 0 1 0 1 0 1 0 1 1 1 0 2 3 1 6 1 3 1 3 1 0 1 9 1 g 5 2 1 4 1 g g4 a 5 u 1 v q 2 z 0",
  "33 2 d 17 4 8 7 1 1we 9 1ds6 f1"]

def asciiFormLines : List String := [
  "4g 0 1 w 7 0 2 w lk 1 0 1 2p 4 0 2 w lg 2 1 1 1e 0 0 2 w ld 3 0 2 w mf 0 0 1 1d 0 0 1 33 1 0 3",
  "1d 6dg 1g 0 0 3 1d 6dg 1e 0 0 3 1f 6dg 1g 35 0 2 2x lj 1 0 2 2x 2y 0 0 2 2x 2y b 0 2 30 53 0 0",
  "2 30 53 8 0 2 jg 32 1h 0 1 37 1w 0 2 2s am 0 0 2 2s am 0 0 2 2s am 0 0 2 30 2y 0 0 2 30 2y 0 0",
  "2 30 2y 0 0 2 32 2y 0 0 2 32 2y 0 0 2 32 2y 10 0 2 2s 3e 0 0 2 2s 3e 0 0 2 2s 3e 58 0 1 2w 1 0",
  "1 2y 0 0 1 36 3 0 1 3b 0 0 1 3d v 0 2 w li 0 0 2 w lj 0 0 2 w lm 0 0 2 w mg 0 0 2 w lf 0 0 2 w",
  "ln 3 0 1 30 0 0 1 37 0 0 1 3c 46 0 2 w qh 3 0 1 1n 5 0 2 w ld 0 0 3 w lk ld 52e 0 1 2p 1 0 1",
  "2q 1 1 1 2s 1 7 1 2v 1 0 1 33 1 0 1 34 0 0 1 36 0 1 1 38 0 0 1 3b 0 0 1 2p 3 0 1 2q 0 1 1 2s 3",
  "0 1 2v 1 0 1 2z 0 0 1 31 1 0 1 33 3 0 1 34 0 1 1 38 2 0 1 3a 6 0 1 2x 0 0 1 36 0 1 1 39 1i 0 1",
  "2r 3 0 1 2u q 0 1 3e 66 0 2 2p ji 82 0 2 w lv 1 0 2 w lv 0 0 2 w n6 0 0 3 w lk n6 b 0 3 w lv",
  "lc 0 0 3 w lv ld 0 0 3 w lv n6 d 0 3 w lw lc 0 0 3 w lw ld 0 0 3 w lw n6 d 0 3 w lk lc 0 0 3 w",
  "lk ld 0 0 1 2o d 0 2 w ld 0 0 2 w lw 1 0 1 w 0 0 1 w 0 0 1 w 0 0 1 w 0 0 1 w 0 0 1 w 0 0 1 w 0",
  "0 1 w 0 0 1 w 0 0 1 w 0 0 1 w c 0 2 w mr c 0 1 1a 0 0 2 1a 1a 0 0 3 1a 1a 1a 8 0 1 w c 0 2 x x",
  "1 0 2 w lh 8 0 2 1r 1r 0 0 2 1r x 0 0 2 x 1r l 0 1 w g 0 1 1c 0 0 1 2x 2 5 1 1g 0 0 1 17 1 0 1",
  "1p 0 1 1 14 0 0 1 32 0 9 1 1c 0 0 1 17 1 0 1 1p 0 1 1 14 1 0 1 2p 0 0 1 2t 0 0 1 33 0 0 1 3c 1",
  "0 1 2w 0 3 1 2z 0 0 1 34 0 1 1 37 b 0 2 36 37 2f 0 3 2p 1b 2r 0 0 3 2p 1b 37 0 0 1 2r 0 0 2 4w",
  "2r 1 0 3 2r 1b 33 0 0 3 2r 1b 39 2 0 2 4w 2u 0 1 1 2v 0 0 1 2w 0 0 1 2w 0 0 1 2w 1 0 1 2x 0 0",
  "1 2x 0 0 1 30 0 0 1 30 1 0 1 32 0 0 2 32 33 2 2 1 34 0 0 1 36 0 0 1 36 2 0 2 37 31 0 0 3 38 2t",
  "30 0 0 2 38 31 1 0 1 3e 3 0 1 3e 1 0 1 2z 1 1 1 2q 1 0 1 2t 0 1 1 2t 1 0 1 31 0 0 1 33 4 0 1",
  "2x 1 0 3 2u 2p 3c 9 0 1 2s 0 1 1 2s 0 1 1 2x 6 0 3 1d 6dg 1j 0 0 3 1d 6dg 1l 0 0 4 1d 6dg 1d",
  "1c 0 0 3 1d 6dg 1f 0 0 3 1e 6dg 1f 0 0 3 1d 6dg 1h 0 0 3 1e 6dg 1h 0 0 3 1f 6dg 1h 0 0 3 1g",
  "6dg 1h 0 0 3 1d 6dg 1i 0 0 3 1h 6dg 1i 0 0 3 1d 6dg 1k 0 0 3 1f 6dg 1k 0 0 3 1h 6dg 1k 0 0 3",
  "1j 6dg 1k 0 0 2 1d 6dg 0 0 1 2x 0 0 2 2x 2x 0 0 3 2x 2x 2x 0 0 2 2x 3a 0 0 1 3a 0 0 2 3a 2x 0",
  "0 3 3a 2x 2x 0 0 4 3a 2x 2x 2x 0 0 2 2x 3c 0 0 1 3c 0 0 2 3c 2x 0 0 3 3c 2x 2x 0 0 1 30 0 1 1",
  "2r 0 0 1 31 0 0 1 2x 0 0 2 2x 2x 0 0 3 2x 2x 2x 0 0 2 2x 3a 0 0 1 3a 0 0 2 3a 2x 0 0 3 3a 2x",
  "2x 0 0 4 3a 2x 2x 2x 0 0 2 2x 3c 0 0 1 3c 0 0 2 3c 2x 0 0 3 3c 2x 2x 0 0 1 30 0 1 1 2r 0 0 1",
  "31 9 0 3 1c 6dg 1f k6 8 1 1d 0 0 2 1d 1c 0 0 2 1d 1d 0 0 2 1d 1e 0 0 2 1d 1f 0 0 2 1d 1g 0 0 2",
  "1d 1h 0 0 2 1d 1i 0 0 2 1d 1j 0 0 2 1d 1k 0 0 2 1d 1l 0 0 2 1e 1c 0 0 3 14 1d 15 0 0 3 14 1e",
  "15 0 0 3 14 1f 15 0 0 3 14 1g 15 0 0 3 14 1h 15 0 0 3 14 1i 15 0 0 3 14 1j 15 0 0 3 14 1k 15 0",
  "0 3 14 1l 15 0 0 4 14 1d 1c 15 0 0 4 14 1d 1d 15 0 0 4 14 1d 1e 15 0 0 4 14 1d 1f 15 0 0 4 14",
  "1d 1g 15 0 0 4 14 1d 1h 15 0 0 4 14 1d 1i 15 0 0 4 14 1d 1j 15 0 0 4 14 1d 1k 15 0 0 4 14 1d",
  "1l 15 0 0 4 14 1e 1c 15 0 0 2 1d 1a 0 0 2 1e 1a 0 0 2 1f 1a 0 0 2 1g 1a 0 0 2 1h 1a 0 0 2 1i",
  "1a 0 0 2 1j 1a 0 0 2 1k 1a 0 0 2 1l 1a 0 0 3 1d 1c 1a 0 0 3 1d 1d 1a 0 0 3 1d 1e 1a 0 0 3 1d",
  "1f 1a 0 0 3 1d 1g 1a 0 0 3 1d 1h 1a 0 0 3 1d 1i 1a 0 0 3 1d 1j 1a 0 0 3 1d 1k 1a 0 0 3 1d 1l",
  "1a 0 0 3 1e 1c 1a 0 0 3 14 2p 15 0 0 3 14 2q 15 0 0 3 14 2r 15 0 0 3 14 2s 15 0 0 3 14 2t 15 0",
  "0 3 14 2u 15 0 0 3 14 2v 15 0 0 3 14 2w 15 0 0 3 14 2x 15 0 0 3 14 2y 15 0 0 3 14 2z 15 0 0 3",
  "14 30 15 0 0 3 14 31 15 0 0 3 14 32 15 0 0 3 14 33 15 0 0 3 14 34 15 0 0 3 14 35 15 0 0 3 14",
  "36 15 0 0 3 14 37 15 0 0 3 14 38 15 0 0 3 14 39 15 0 0 3 14 3a 15 0 0 3 14 3b 15 0 0 3 14 3c",
  "15 0 0 3 14 3d 15 0 0 3 14 3e 15 0 p 1 2p 0 p 1 2p 0 0 1 1c 13d 0 3 1m 1m 1p 0 0 2 1p 1p 0 0 3",
  "1p 1p 1p ed 0 1 2y 0 0 1 3a oy 0 1 w 4a 0 2 w 9ll 0 0 2 w 9lm 9v 0 3 14 3cw 15 0 0 3 14 3cy 15",
  "0 0 3 14 3cz 15 0 0 3 14 3d1 15 0 0 3 14 3d2 15 0 0 3 14 3d3 15 0 0 3 14 3d5 15 0 0 3 14 3d7",
  "15 0 0 3 14 3d8 15 0 0 3 14 3da 15 0 0 3 14 3db 15 0 0 3 14 3dc 15 0 0 3 14 3dd 15 0 0 3 14",
  "3de 15 0 0 3 14 xz4 15 0 0 3 14 yvs 15 0 0 3 14 zc4 15 0 0 3 14 108s 15 0 0 3 14 10p4 15 0 0 3",
  "14 115g 15 0 0 3 14 1224 15 0 0 3 14 12ys 15 0 0 3 14 13f4 15 0 0 3 14 14bs 15 0 0 3 14 14s4",
  "15 0 0 3 14 158g 15 0 0 3 14 15os 15 0 0 3 14 1654 15 0 0 3 14 13p8 15 0 0 4 14 1350 13ic 15 0",
  "0 4 14 1350 16f8 15 1 0 3 14 feo 15 0 0 3 14 fik 15 0 0 3 14 fex 15 0 0 3 14 h5n 15 0 0 3 14",
  "fis 15 0 0 3 14 g31 15 0 0 3 14 fer 15 0 0 3 14 g2z 15 0 0 3 14 fh9 15 0 0 3 14 gg1 15 0 0 3",
  "14 kco 15 0 0 3 14 m7f 15 0 0 3 14 ldg 15 0 0 3 14 kdk 15 0 0 3 14 ssx 15 0 0 3 14 h7j 15 0 0",
  "3 14 k4l 15 0 0 3 14 kkq 15 0 0 3 14 kcp 15 0 0 3 14 ny6 15 0 0 3 14 glp 15 0 0 3 14 mm1 15 0",
  "0 3 14 rs1 15 0 0 3 14 nz1 15 0 0 3 14 gc4 15 0 0 3 14 fkz 15 0 0 3 14 gos 15 0 0 3 14 i1y 15",
  "0 0 3 14 nhf 15 0 0 3 14 flt 15 0 0 3 14 rt3 15 0 0 3 14 ggk 15 0 0 3 14 nzh 15 0 0 3 14 fm9",
  "15 0 0 3 14 pnu 15 0 0 3 14 po3 15 c 0 3 34 38 2t 0 0 2 1e 1d 0 0 2 1e 1e 0 0 2 1e 1f 0 0 2 1e",
  "1g 0 0 2 1e 1h 0 0 2 1e 1i 0 0 2 1e 1j 0 0 2 1e 1k 0 0 2 1e 1l 0 0 2 1f 1c 0 0 2 1f 1d 0 0 2",
  "1f 1e 0 0 2 1f 1f 0 0 2 1f 1g 0 0 2 1f 1h 29 0 2 1f 1i 0 0 2 1f 1j 0 0 2 1f 1k 0 0 2 1f 1l 0 0",
  "2 1g 1c 0 0 2 1g 1d 0 0 2 1g 1e 0 0 2 1g 1f 0 0 2 1g 1g 0 0 2 1g 1h 0 0 2 1g 1i 0 0 2 1g 1j 0",
  "0 2 1g 1k 0 0 2 1g 1l 0 0 2 1h 1c 0 0 2 1d kco 0 0 2 1e kco 0 0 2 1f kco 0 0 2 1g kco 0 0 2 1h",
  "kco 0 0 2 1i kco 0 0 2 1j kco 0 0 2 1k kco 0 0 2 1l kco 0 0 3 1d 1c kco 0 0 3 1d 1d kco 0 0 3",
  "1d 1e kco 0 0 2 2w 2v 0 0 3 2t 36 2v 0 0 2 2t 3a 0 0 3 30 38 2s 3s 0 2 1c m9l 0 0 2 1d m9l 0 0",
  "2 1e m9l 0 0 2 1f m9l 0 0 2 1g m9l 0 0 2 1h m9l 0 0 2 1i m9l 0 0 2 1j m9l 0 0 2 1k m9l 0 0 2",
  "1l m9l 0 0 3 1d 1c m9l 0 0 3 1d 1d m9l 0 0 3 1d 1e m9l 0 0 3 1d 1f m9l 0 0 3 1d 1g m9l 0 0 3",
  "1d 1h m9l 0 0 3 1d 1i m9l 0 0 3 1d 1j m9l 0 0 3 1d 1k m9l 0 0 3 1d 1l m9l 0 0 3 1e 1c m9l 0 0",
  "3 1e 1d m9l 0 0 3 1e 1e m9l 0 0 3 1e 1f m9l 0 0 3 1e 1g m9l 0 0 3 2w 34 2p 0 0 2 2s 2p 0 0 2",
  "2p 39 0 0 3 2q 2p 36 0 0 2 33 3a 0 0 2 34 2r 0 0 2 2s 31 0 0 3 2s 31 1e 0 0 3 2s 31 1f 0 0 2",
  "2x 39 5 0 2 34 2p 0 0 2 32 2p 0 0 2 qk 2p 0 0 2 31 2p 0 0 2 2z 2p 0 0 2 2z 2q 0 0 2 31 2q 0 0",
  "2 2v 2q 0 0 3 2r 2p 30 0 0 4 2z 2r 2p 30 0 0 2 34 2u 0 0 2 32 2u 0 0 2 qk 2u 0 0 2 qk 2v 0 0 2",
  "31 2v 0 0 2 2z 2v 0 0 2 2w 3e 0 0 3 2z 2w 3e 0 0 3 31 2w 3e 0 0 3 2v 2w 3e 0 0 3 38 2w 3e 0 0",
  "2 qk 30 0 0 2 31 30 0 0 2 2s 30 0 0 2 2z 30 0 0 2 2u 31 0 0 2 32 31 0 0 2 qk 31 0 0 2 31 31 0",
  "0 2 2r 31 0 0 2 2z 31 0 0 3 31 31 1e 0 0 3 2r 31 1e 0 0 2 31 1e 0 0 3 2z 31 1e 0 0 3 31 31 1f",
  "0 0 3 2r 31 1f 0 0 2 31 1f 0 0 3 2z 31 1f 0 0 3 31 6qd 37 0 0 4 31 6qd 37 1e 0 0 2 34 2p 0 0 3",
  "2z 34 2p 0 0 3 31 34 2p 0 0 3 2v 34 2p 0 0 3 36 2p 2s 0 0 5 36 2p 2s 6qd 37 0 0 6 36 2p 2s 6qd",
  "37 1e 0 0 2 34 37 0 0 2 32 37 0 0 2 qk 37 0 0 2 31 37 0 0 2 34 3a 0 0 2 32 3a 0 0 2 qk 3a 0 0",
  "2 31 3a 0 0 2 2z 3a 0 0 2 31 3a 0 0 2 34 3b 0 0 2 32 3b 0 0 2 qk 3b 0 0 2 31 3b 0 0 2 2z 3b 0",
  "0 2 31 3b 0 0 2 2z qx 0 0 2 31 qx 0 0 4 2p 1a 31 1a 0 0 2 2q 35 0 0 2 2r 2r 0 0 2 2r 2s 0 0 4",
  "2r 6qd 2z 2v 0 0 3 2r 33 1a 0 0 2 2s 2q 0 0 2 2v 3d 0 0 2 2w 2p 0 0 2 2w 34 0 0 2 2x 32 0 0 2",
  "2z 2z 0 0 2 2z 31 0 0 2 2z 38 0 0 2 30 31 0 0 2 30 32 0 0 3 30 33 2v 0 0 2 30 3c 0 0 2 31 2q 0",
  "0 3 31 2x 30 0 0 3 31 33 30 0 0 2 34 2w 0 0 4 34 1a 31 1a 0 0 3 34 34 31 0 0 2 34 36 0 0 2 37",
  "36 0 0 2 37 3a 0 0 2 3b 2q 0 0 3 3a 6qd 31 0 0 3 2p 6qd 31 0 0 2 1d k4l 0 0 2 1e k4l 0 0 2 1f",
  "k4l 0 0 2 1g k4l 0 0 2 1h k4l 0 0 2 1i k4l 0 0 2 1j k4l 0 0 2 1k k4l 0 0 2 1l k4l 0 0 3 1d 1c",
  "k4l 0 0 3 1d 1d k4l 0 0 3 1d 1e k4l 0 0 3 1d 1f k4l 0 0 3 1d 1g k4l 0 0 3 1d 1h k4l 0 0 3 1d",
  "1i k4l 0 0 3 1d 1j k4l 0 0 3 1d 1k k4l 0 0 3 1d 1l k4l 0 0 3 1e 1c k4l 0 0 3 1e 1d k4l 0 0 3",
  "1e 1e k4l 0 0 3 1e 1f k4l 0 0 3 1e 1g k4l 0 0 3 1e 1h k4l 0 0 3 1e 1i k4l 0 0 3 1e 1j k4l 0 0",
  "3 1e 1k k4l 0 0 3 1e 1l k4l 0 0 3 1f 1c k4l 0 0 3 1f 1d k4l 0 0 3 2v 2p 30 mwi 0 1 2r 0 0 1 2u",
  "0 0 1 35 gej 0 2 2u 2u 0 0 2 2u 2x 0 0 2 2u 30 0 0 3 2u 2u 2x 0 0 3 2u 2u 30 0 0 2 37 38 0 0 2",
  "37 38 y 0 1 17 8k 0 3 w 18s 18x 0 0 3 w 18t 18x 0 0 3 w 18u 18x 0 0 3 w 18v 18x 0 0 3 w 18w",
  "18x 0 0 3 w 18x 19s ba 0 i 185 18k 18p w 17r 18k 18k 18n w 189 18k 18q 18n w 18o 183 18k 18l 0",
  "0 8 17w 18k w 17w 18k 17r 18k 18n k 0 1 18 2 1 1 1m 0 0 1 x 0 0 1 1r 2 0 3 1a 1a 1a m 0 2 1a",
  "1a 2 0 1 2n 0 0 1 2n 0 1 1 14 0 0 1 3f 0 0 1 3h e 0 1 2j 0 0 1 2l 0 0 2 w lh 0 0 2 w lh 0 0 2",
  "w lh 0 0 2 w lh 0 0 1 2n 0 0 1 2n 0 0 1 2n 0 0 1 18 1 0 1 1a 1 0 1 1n 0 0 1 1m 0 0 1 1r 0 0 1",
  "x 1 1 1 14 0 0 1 3f 0 0 1 3h 2 0 1 z 0 0 1 12 0 1 1 16 0 0 1 19 0 0 1 1o 0 0 1 1q 0 0 1 1p 1 0",
  "1 2k 0 1 1 10 0 0 1 1s 4 0 2 w 18r 1 0 2 w 18s 1 0 2 w 18t 1 0 2 w 18u 1 0 2 w 18v 1 0 2 w 18w",
  "1 0 2 w 18x 1 0 2 w 18y 3m v 1 x 0 p 1 2p 0 z 1 2j 3o 0 2 w lg 1j5 0 1 35 14d6 p 1 2p 0 p 1 2p",
  "0 p 1 2p 0 6 1 2p 1 h 1 2x 0 p 1 2p 0 p 1 2p 0 0 1 2p 1 1 1 2r 2 0 1 2v 2 1 1 2y 2 3 1 32 1 7",
  "1 37 0 3 1 2p 1 0 1 2u 1 6 1 2w 1 a 1 34 0 p 1 2p 0 p 1 2p 0 1 1 2p 1 3 1 2s 2 7 1 2y 1 6 1 37",
  "1 p 1 2p 0 1 1 2p 1 3 1 2s 1 4 1 2x 1 0 1 33 3 6 1 37 1 p 1 2p 0 p 1 2p 0 p 1 2p 0 p 1 2p 0 p",
  "1 2p 0 p 1 2p 0 p 1 2p 0 p 1 2p 0 p 1 2p 0 p 1 2p 0 p 1 2p 0 p 1 2p 0 p 1 2p 8a 9 1 1c 0 9 1",
  "1c 0 9 1 1c 0 9 1 1c 0 9 1 1c 4xs 0 2 1c 1a 0 0 2 1c 18 0 0 2 1d 18 0 0 2 1e 18 0 0 2 1f 18 0",
  "0 2 1g 18 0 0 2 1h 18 0 0 2 1i 18 0 0 2 1j 18 0 0 2 1k 18 0 0 2 1l 18 5 0 3 14 2p 15 0 0 3 14",
  "2q 15 0 0 3 14 2r 15 0 0 3 14 2s 15 0 0 3 14 2t 15 0 0 3 14 2u 15 0 0 3 14 2v 15 0 0 3 14 2w",
  "15 0 0 3 14 2x 15 0 0 3 14 2y 15 0 0 3 14 2z 15 0 0 3 14 30 15 0 0 3 14 31 15 0 0 3 14 32 15 0",
  "0 3 14 33 15 0 0 3 14 34 15 0 0 3 14 35 15 0 0 3 14 36 15 0 0 3 14 37 15 0 0 3 14 38 15 0 0 3",
  "14 39 15 0 0 3 14 3a 15 0 0 3 14 3b 15 0 0 3 14 3c 15 0 0 3 14 3d 15 0 0 3 14 3e 15 0 0 3 9hw",
  "37 9hx 0 0 1 2r 0 0 1 36 0 0 2 2r 2s 0 0 2 3b 3e 1 p 1 2p 0 0 2 2w 3a 0 0 2 31 3a 0 0 2 37 2s",
  "0 0 2 37 37 0 0 3 34 34 3a 0 0 2 3b 2r q 0 2 31 2r 0 0 2 31 2s 0 0 2 31 36 z 0 2 2s 2y 21r 9 1",
  "1c"]

end Rulebook.Url
