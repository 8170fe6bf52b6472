/-!
# The general category of every code point, as a table

Runs of code points of one category from zero on, each written as two numbers in base 36: how many code
points the run has more than one, and the index of its category among `Category.all`.
-/

namespace Rulebook

def categoryLines : List String := [
  "v p 0 m 2 h 0 j 2 h 0 d 0 e 0 h 0 i 0 h 0 c 1 h 9 8 1 h 2 i 1 h p 0 0 d 0 h 0 e 0 k 0 b 0 k p",
  "1 0 d 0 i 0 e 0 i w p 0 m 0 h 3 j 0 l 0 h 0 k 0 l 0 4 0 f 0 i 0 q 0 l 0 k 0 l 0 i 1 a 0 k 0 1",
  "1 h 0 k 0 a 0 4 0 g 2 a 0 h m 0 0 i 6 0 n 1 0 i 7 1 0 0 0 1 0 0 0 1 0 0 0 1 0 0 0 1 0 0 0 1 0",
  "0 0 1 0 0 0 1 0 0 0 1 0 0 0 1 0 0 0 1 0 0 0 1 0 0 0 1 0 0 0 1 0 0 0 1 0 0 0 1 0 0 0 1 0 0 0 1",
  "0 0 0 1 0 0 0 1 0 0 0 1 0 0 0 1 0 0 0 1 0 0 0 1 0 0 0 1 0 0 0 1 0 0 0 1 0 0 0 1 0 0 1 1 0 0 0",
  "1 0 0 0 1 0 0 0 1 0 0 0 1 0 0 0 1 0 0 0 1 0 0 0 1 0 0 1 1 0 0 0 1 0 0 0 1 0 0 0 1 0 0 0 1 0 0",
  "0 1 0 0 0 1 0 0 0 1 0 0 0 1 0 0 0 1 0 0 0 1 0 0 0 1 0 0 0 1 0 0 0 1 0 0 0 1 0 0 0 1 0 0 0 1 0",
  "0 0 1 0 0 0 1 0 0 0 1 0 0 0 1 0 0 0 1 0 0 0 1 0 0 0 1 1 0 0 1 0 0 0 1 0 0 2 1 1 0 0 1 0 0 0 1",
  "1 0 0 1 2 0 1 1 3 0 0 1 1 0 0 1 2 0 2 1 1 0 0 1 1 0 0 1 0 0 0 1 0 0 0 1 1 0 0 1 0 0 1 1 0 0 0",
  "1 1 0 0 1 2 0 0 1 0 0 0 1 1 0 1 1 0 4 0 0 2 1 3 4 0 0 0 2 0 1 0 0 0 2 0 1 0 0 0 2 0 1 0 0 0 1",
  "0 0 0 1 0 0 0 1 0 0 0 1 0 0 0 1 0 0 0 1 0 0 0 1 0 0 1 1 0 0 0 1 0 0 0 1 0 0 0 1 0 0 0 1 0 0 0",
  "1 0 0 0 1 0 0 0 1 0 0 0 1 0 0 1 1 0 0 0 2 0 1 0 0 0 1 2 0 0 1 0 0 0 1 0 0 0 1 0 0 0 1 0 0 0 1",
  "0 0 0 1 0 0 0 1 0 0 0 1 0 0 0 1 0 0 0 1 0 0 0 1 0 0 0 1 0 0 0 1 0 0 0 1 0 0 0 1 0 0 0 1 0 0 0",
  "1 0 0 0 1 0 0 0 1 0 0 0 1 0 0 0 1 0 0 0 1 0 0 0 1 0 0 0 1 0 0 0 1 0 0 0 1 0 0 0 1 0 0 0 1 0 0",
  "0 1 0 0 6 1 1 0 0 1 1 0 1 1 0 0 0 1 3 0 0 1 0 0 0 1 0 0 0 1 0 0 0 1 0 0 1w 1 0 4 q 1 h 3 3 k b",
  "3 d k 4 3 6 k 0 3 0 k 0 3 g k 33 5 0 0 0 1 0 0 0 1 0 3 0 k 0 0 0 1 1 t 0 3 2 1 0 h 0 0 3 t 1 k",
  "0 0 0 h 2 0 0 t 0 0 0 t 1 0 0 1 g 0 0 t 8 0 y 1 0 0 1 1 2 0 2 1 0 0 0 1 0 0 0 1 0 0 0 1 0 0 0",
  "1 0 0 0 1 0 0 0 1 0 0 0 1 0 0 0 1 0 0 0 1 0 0 0 1 0 0 0 1 0 0 4 1 0 0 0 1 0 i 0 0 0 1 1 0 1 1",
  "1e 0 1b 1 0 0 0 1 0 0 0 1 0 0 0 1 0 0 0 1 0 0 0 1 0 0 0 1 0 0 0 1 0 0 0 1 0 0 0 1 0 0 0 1 0 0",
  "0 1 0 0 0 1 0 0 0 1 0 0 0 1 0 0 0 1 0 0 0 1 0 0 0 1 0 l 4 5 1 7 0 0 0 1 0 0 0 1 0 0 0 1 0 0 0",
  "1 0 0 0 1 0 0 0 1 0 0 0 1 0 0 0 1 0 0 0 1 0 0 0 1 0 0 0 1 0 0 0 1 0 0 0 1 0 0 0 1 0 0 0 1 0 0",
  "0 1 0 0 0 1 0 0 0 1 0 0 0 1 0 0 0 1 0 0 0 1 0 0 0 1 0 0 0 1 0 0 0 1 0 0 0 1 0 0 0 1 0 0 0 1 1",
  "0 0 1 0 0 0 1 0 0 0 1 0 0 0 1 0 0 0 1 0 0 0 1 0 0 1 1 0 0 0 1 0 0 0 1 0 0 0 1 0 0 0 1 0 0 0 1",
  "0 0 0 1 0 0 0 1 0 0 0 1 0 0 0 1 0 0 0 1 0 0 0 1 0 0 0 1 0 0 0 1 0 0 0 1 0 0 0 1 0 0 0 1 0 0 0",
  "1 0 0 0 1 0 0 0 1 0 0 0 1 0 0 0 1 0 0 0 1 0 0 0 1 0 0 0 1 0 0 0 1 0 0 0 1 0 0 0 1 0 0 0 1 0 0",
  "0 1 0 0 0 1 0 0 0 1 0 0 0 1 0 0 0 1 0 0 0 1 0 0 0 1 0 0 0 1 0 0 0 1 0 0 0 1 0 0 0 1 0 0 0 1 0",
  "0 0 1 0 0 0 1 0 0 0 1 0 0 0 1 0 0 0 1 0 0 0 1 0 0 0 1 0 0 0 1 0 t 11 0 1 t 0 3 5 h 14 1 0 h 0",
  "c 1 t 1 l 0 j 0 t 18 5 0 c 0 5 0 h 1 5 0 h 1 5 0 h 0 5 7 t q 4 3 t 3 4 1 h a t 5 q 2 i 1 h 0 j",
  "1 h 1 l a 5 0 h 0 q 2 h v 4 0 3 9 4 k 5 9 8 3 h 1 4 0 5 2q 4 0 h 0 4 6 5 0 q 0 l 5 5 1 3 1 5 0",
  "l 3 5 1 4 9 8 2 4 1 l 0 4 d h 0 t 0 q 0 4 0 5 t 4 q 5 1 t 2g 4 a 5 0 4 d t 9 8 w 4 8 5 1 3 0 l",
  "2 h 0 3 1 t 0 5 1 j l 4 3 5 0 3 8 5 0 3 2 5 0 3 4 5 1 t e h 0 t o 4 2 5 1 t 0 h 0 t a 4 4 t n",
  "4 0 k 5 4 0 t 1 q 5 t 7 5 14 4 0 3 n 5 0 q v 5 0 6 1h 4 0 5 0 6 0 5 0 4 2 6 7 5 3 6 0 5 1 6 0",
  "4 6 5 9 4 1 5 1 h 9 8 0 h 0 3 e 4 0 5 1 6 0 t 7 4 1 t 1 4 1 t l 4 0 t 6 4 0 t 0 4 2 t 3 4 1 t",
  "0 5 0 4 2 6 3 5 1 t 1 6 1 t 1 6 0 5 0 4 7 t 0 6 3 t 1 4 0 t 2 4 1 5 1 t 9 8 1 4 1 j 5 a 0 l 0",
  "j 0 4 0 h 0 5 1 t 1 5 0 6 0 t 5 4 3 t 1 4 1 t l 4 0 t 6 4 0 t 1 4 0 t 1 4 0 t 1 4 1 t 0 5 0 t",
  "2 6 1 5 3 t 1 5 1 t 2 5 2 t 0 5 6 t 3 4 0 t 0 4 6 t 9 8 1 5 2 4 0 5 0 h 9 t 1 5 0 6 0 t 8 4 0",
  "t 2 4 0 t l 4 0 t 6 4 0 t 1 4 0 t 4 4 1 t 0 5 0 4 2 6 4 5 0 t 1 5 0 6 0 t 1 6 0 5 1 t 0 4 e t",
  "1 4 1 5 1 t 9 8 0 h 0 j 6 t 0 4 5 5 0 t 0 5 1 6 0 t 7 4 1 t 1 4 1 t l 4 0 t 6 4 0 t 1 4 0 t 4",
  "4 1 t 0 5 0 4 0 6 0 5 0 6 3 5 1 t 1 6 1 t 1 6 0 5 6 t 1 5 0 6 3 t 1 4 0 t 2 4 1 5 1 t 9 8 0 l",
  "0 4 5 a 9 t 0 5 0 4 0 t 5 4 2 t 2 4 0 t 3 4 2 t 1 4 0 t 0 4 0 t 1 4 2 t 1 4 2 t 2 4 2 t b 4 3",
  "t 1 6 0 5 1 6 2 t 2 6 0 t 2 6 0 5 1 t 0 4 5 t 0 6 d t 9 8 2 a 5 l 0 j 0 l 4 t 0 5 2 6 0 5 7 4",
  "0 t 2 4 0 t m 4 0 t f 4 1 t 0 5 0 4 2 5 3 6 0 t 2 5 0 t 3 5 6 t 1 5 0 t 2 4 1 t 0 4 1 t 1 4 1",
  "5 1 t 9 8 6 t 0 h 6 a 0 l 0 4 0 5 1 6 0 h 7 4 0 t 2 4 0 t m 4 0 t 9 4 0 t 4 4 1 t 0 5 0 4 0 6",
  "0 5 4 6 0 t 0 5 1 6 0 t 1 6 1 5 6 t 1 6 5 t 1 4 0 t 1 4 1 5 1 t 9 8 0 t 1 4 0 6 b t 1 5 1 6 8",
  "4 0 t 2 4 0 t 14 4 1 5 0 4 2 6 3 5 0 t 2 6 0 t 2 6 0 5 0 4 0 l 3 t 2 4 0 6 6 a 2 4 1 5 1 t 9 8",
  "8 a 0 l 5 4 0 t 0 5 1 6 0 t h 4 2 t n 4 0 t 8 4 0 t 0 4 1 t 6 4 2 t 0 5 3 t 2 6 2 5 0 t 0 5 0",
  "t 7 6 5 t 9 8 1 t 1 6 0 h b t 1b 4 0 5 1 4 6 5 3 t 0 j 5 4 0 3 7 5 0 h 9 8 1 h 10 t 1 4 0 t 0",
  "4 0 t 4 4 0 t n 4 0 t 0 4 0 t 9 4 0 5 1 4 8 5 0 4 1 t 4 4 0 t 0 3 0 t 6 5 0 t 9 8 1 t 3 4 v t",
  "0 4 2 l e h 0 l 0 h 2 l 1 5 5 l 9 8 9 a 0 l 0 5 0 l 0 5 0 l 0 5 0 d 0 e 0 d 0 e 1 6 7 4 0 t z",
  "4 3 t d 5 0 6 4 5 0 h 1 5 4 4 a 5 0 t z 5 0 t 7 l 0 5 5 l 0 t 1 l 4 h 3 l 1 h 10 t 16 4 1 6 3",
  "5 0 6 5 5 0 6 1 5 1 6 1 5 0 4 9 8 5 h 5 4 1 6 1 5 3 4 2 5 0 4 2 6 1 4 6 6 2 4 3 5 c 4 0 5 1 6",
  "1 5 5 6 0 5 0 4 0 6 9 8 2 6 0 5 1 l 11 0 0 t 0 0 4 t 0 0 1 t 16 1 0 h 0 3 2 1 94 4 0 t 3 4 1 t",
  "6 4 0 t 0 4 0 t 3 4 1 t 14 4 0 t 3 4 1 t w 4 0 t 3 4 1 t 6 4 0 t 0 4 0 t 3 4 1 t e 4 0 t 1k 4",
  "0 t 3 4 1 t 1u 4 1 t 2 5 8 h j a 2 t f 4 9 l 5 t 2d 0 1 t 5 1 1 t 0 c h7 4 0 l 0 h g 4 0 m p 4",
  "0 d 0 e 2 t 22 4 2 h 2 9 7 4 6 t h 4 2 5 0 6 8 t i 4 1 5 0 6 1 h 8 t h 4 1 5 b t c 4 0 t 2 4 0",
  "t 1 5 b t 1f 4 1 5 0 6 6 5 7 6 0 5 1 6 a 5 2 h 0 3 2 h 0 j 0 4 0 5 1 t 9 8 5 t 9 a 5 t 5 h 0 c",
  "3 h 2 5 0 q 0 5 9 8 5 t y 4 0 3 1g 4 6 t 4 4 1 5 x 4 0 5 0 4 4 t 1x 4 9 t u 4 0 t 2 5 3 6 1 5",
  "2 6 3 t 1 6 0 5 5 6 2 5 3 t 0 l 2 t 1 h 9 8 t 4 1 t 4 4 a t 17 4 3 t p 4 5 t 9 8 0 a 2 t x l m",
  "4 1 5 1 6 0 5 1 t 1 h 1g 4 0 6 0 5 0 6 6 5 0 t 0 5 0 6 0 5 1 6 7 5 5 6 9 5 1 t 0 5 9 8 5 t 9 8",
  "5 t 6 h 0 3 5 h 1 t d 5 0 7 f 5 1c t 3 5 0 6 1a 4 0 5 0 6 4 5 0 6 0 5 4 6 0 5 1 6 7 4 2 t 9 8",
  "6 h 9 l 8 5 8 l 1 h 0 t 1 5 0 6 t 4 0 6 3 5 1 6 1 5 0 6 2 5 1 4 9 8 17 4 0 5 0 6 1 5 2 6 0 5 0",
  "6 2 5 1 6 7 t 3 h z 4 7 6 7 5 1 6 1 5 2 t 4 h 9 8 2 t 2 4 9 8 t 4 5 3 1 h 8 1 6 t 16 0 1 t 2 0",
  "7 h 7 t 2 5 0 h c 5 0 6 6 5 3 4 0 5 5 4 0 5 1 4 0 6 1 5 0 4 4 t 17 1 1q 3 c 1 0 3 x 1 10 3 1r",
  "5 0 0 0 1 0 0 0 1 0 0 0 1 0 0 0 1 0 0 0 1 0 0 0 1 0 0 0 1 0 0 0 1 0 0 0 1 0 0 0 1 0 0 0 1 0 0",
  "0 1 0 0 0 1 0 0 0 1 0 0 0 1 0 0 0 1 0 0 0 1 0 0 0 1 0 0 0 1 0 0 0 1 0 0 0 1 0 0 0 1 0 0 0 1 0",
  "0 0 1 0 0 0 1 0 0 0 1 0 0 0 1 0 0 0 1 0 0 0 1 0 0 0 1 0 0 0 1 0 0 0 1 0 0 0 1 0 0 0 1 0 0 0 1",
  "0 0 0 1 0 0 0 1 0 0 0 1 0 0 0 1 0 0 0 1 0 0 0 1 0 0 0 1 0 0 0 1 0 0 0 1 0 0 0 1 0 0 0 1 0 0 0",
  "1 0 0 0 1 0 0 0 1 0 0 0 1 0 0 0 1 0 0 0 1 0 0 0 1 0 0 0 1 0 0 0 1 0 0 0 1 0 0 0 1 0 0 0 1 0 0",
  "0 1 0 0 0 1 0 0 0 1 0 0 0 1 0 0 0 1 0 0 0 1 0 0 0 1 0 0 0 1 0 0 0 1 0 0 0 1 0 0 0 1 0 0 0 1 0",
  "0 0 1 0 0 0 1 0 0 0 1 0 0 0 1 0 0 8 1 0 0 0 1 0 0 0 1 0 0 0 1 0 0 0 1 0 0 0 1 0 0 0 1 0 0 0 1",
  "0 0 0 1 0 0 0 1 0 0 0 1 0 0 0 1 0 0 0 1 0 0 0 1 0 0 0 1 0 0 0 1 0 0 0 1 0 0 0 1 0 0 0 1 0 0 0",
  "1 0 0 0 1 0 0 0 1 0 0 0 1 0 0 0 1 0 0 0 1 0 0 0 1 0 0 0 1 0 0 0 1 0 0 0 1 0 0 0 1 0 0 0 1 0 0",
  "0 1 0 0 0 1 0 0 0 1 0 0 0 1 0 0 0 1 0 0 0 1 0 0 0 1 0 0 0 1 0 0 0 1 0 0 0 1 0 0 0 1 0 0 0 1 0",
  "0 0 1 0 0 0 1 0 0 0 1 0 0 0 1 0 0 0 1 0 0 0 1 0 0 8 1 7 0 5 1 1 t 5 0 1 t 7 1 7 0 7 1 7 0 5 1",
  "1 t 5 0 1 t 7 1 0 t 0 0 0 t 0 0 0 t 0 0 0 t 0 0 7 1 7 0 d 1 1 t 7 1 7 2 7 1 7 2 7 1 7 2 4 1 0",
  "t 1 1 3 0 0 2 0 k 0 1 2 k 2 1 0 t 1 1 3 0 0 2 2 k 3 1 1 t 1 1 3 0 0 t 2 k 7 1 4 0 2 k 1 t 2 1",
  "0 t 1 1 3 0 0 2 1 k 0 t a m 4 q 5 c 1 h 0 f 0 g 0 d 1 f 0 g 0 d 0 f 7 h 0 n 0 o 4 q 0 m 8 h 0",
  "f 0 g 3 h 1 b 2 h 0 i 0 d 0 e a h 0 i 0 h 0 b 9 h 0 m 4 q 0 t 9 q 0 a 0 3 1 t 5 a 2 i 0 d 0 e",
  "0 3 9 a 2 i 0 d 0 e 0 t c 3 2 t w j e t c 5 3 7 0 5 2 7 b 5 e t 1 l 0 0 3 l 0 0 1 l 0 1 2 0 1",
  "1 2 0 0 1 0 l 0 0 1 l 0 i 4 0 5 l 0 0 0 l 0 0 0 l 0 0 0 l 3 0 0 l 0 1 3 0 0 1 3 4 0 1 1 l 1 1",
  "1 0 4 i 0 0 3 1 0 l 0 i 1 l 0 1 0 l f a y 9 0 0 0 1 3 9 0 a 1 l 3 t 4 i 4 l 1 i 3 l 0 i 1 l 0",
  "i 1 l 0 i 6 l 0 i u l 1 i 1 l 0 i 0 l 0 i u l 7f i 7 l 0 d 0 e 0 d 0 e j l 1 i 6 l 0 d 0 e 28",
  "l 0 i t l o i 13 l 5 i 1w l o t a l k t 1n a 25 l l a 52 l 0 i 8 l 0 i 1h l 7 i 32 l 0 i 6v l",
  "0 d 0 e 0 d 0 e 0 d 0 e 0 d 0 e 0 d 0 e 0 d 0 e 0 d 0 e t a 17 l 4 i 0 d 0 e u i 0 d 0 e 0 d 0",
  "e 0 d 0 e 0 d 0 e 0 d 0 e f i 73 l 3m i 0 d 0 e 0 d 0 e 0 d 0 e 0 d 0 e 0 d 0 e 0 d 0 e 0 d 0",
  "e 0 d 0 e 0 d 0 e 0 d 0 e 0 d 0 e 1q i 0 d 0 e 0 d 0 e v i 0 d 0 e 75 i 1b l k i 1 l 5 i 12 l",
  "1 t v l 0 t 2w l 1b 0 1b 1 0 0 0 1 2 0 1 1 0 0 0 1 0 0 0 1 0 0 0 1 3 0 0 1 0 0 1 1 0 0 5 1 1 3",
  "2 0 0 1 0 0 0 1 0 0 0 1 0 0 0 1 0 0 0 1 0 0 0 1 0 0 0 1 0 0 0 1 0 0 0 1 0 0 0 1 0 0 0 1 0 0 0",
  "1 0 0 0 1 0 0 0 1 0 0 0 1 0 0 0 1 0 0 0 1 0 0 0 1 0 0 0 1 0 0 0 1 0 0 0 1 0 0 0 1 0 0 0 1 0 0",
  "0 1 0 0 0 1 0 0 0 1 0 0 0 1 0 0 0 1 0 0 0 1 0 0 0 1 0 0 0 1 0 0 0 1 0 0 0 1 0 0 0 1 0 0 0 1 0",
  "0 0 1 0 0 0 1 0 0 0 1 0 0 0 1 0 0 0 1 0 0 0 1 0 0 0 1 0 0 0 1 0 0 0 1 0 0 0 1 0 0 0 1 0 0 0 1",
  "0 0 0 1 0 0 0 1 0 0 1 1 5 l 0 0 0 1 0 0 0 1 2 5 0 0 0 1 4 t 3 h 0 a 1 h 11 1 0 t 0 1 4 t 0 1 1",
  "t 1j 4 6 t 0 3 0 h d t 0 5 m 4 8 t 6 4 0 t 6 4 0 t 6 4 0 t 6 4 0 t 6 4 0 t 6 4 0 t 6 4 0 t 6 4",
  "0 t v 5 1 h 0 f 0 g 0 f 0 g 2 h 0 f 0 g 0 h 0 f 0 g 8 h 0 c 1 h 0 c 0 h 0 f 0 g 1 h 0 f 0 g 0",
  "d 0 e 0 d 0 e 0 d 0 e 0 d 0 e 4 h 0 3 9 h 1 c 3 h 0 c 0 h 0 d c h 1 l 2 h 0 d 0 e 0 d 0 e 0 d",
  "0 e 0 d 0 e 0 c x t p l 0 t 2g l b t 5x l p t f l 0 m 2 h 0 l 0 3 0 4 0 9 0 d 0 e 0 d 0 e 0 d",
  "0 e 0 d 0 e 0 d 0 e 1 l 0 d 0 e 0 d 0 e 0 d 0 e 0 d 0 e 0 c 0 d 1 e 0 l 8 9 3 5 1 6 0 c 4 3 1",
  "l 2 9 0 3 0 4 0 h 1 l 0 t 2d 4 1 t 1 5 1 k 1 3 0 4 0 c 2h 4 0 h 2 3 0 4 4 t 16 4 0 t 2l 4 0 t",
  "1 l 3 a 9 l v 4 z l a t 0 l f 4 u l 0 t 9 a t l 7 a 0 l e a v l 9 a 12 l e a 8v l 533 4 1r l",
  "g7o 4 0 3 vq 4 2 t 1i l 8 t 13 4 5 3 1 h 7f 4 0 3 2 h f 4 9 8 1 4 j t 0 0 0 1 0 0 0 1 0 0 0 1",
  "0 0 0 1 0 0 0 1 0 0 0 1 0 0 0 1 0 0 0 1 0 0 0 1 0 0 0 1 0 0 0 1 0 0 0 1 0 0 0 1 0 0 0 1 0 0 0",
  "1 0 0 0 1 0 0 0 1 0 0 0 1 0 0 0 1 0 0 0 1 0 0 0 1 0 0 0 1 0 0 0 1 0 4 0 5 2 7 0 h 9 5 0 h 0 3",
  "0 0 0 1 0 0 0 1 0 0 0 1 0 0 0 1 0 0 0 1 0 0 0 1 0 0 0 1 0 0 0 1 0 0 0 1 0 0 0 1 0 0 0 1 0 0 0",
  "1 0 0 0 1 0 0 0 1 1 3 1 5 1x 4 9 9 1 5 5 h 7 t m k 8 3 1 k 0 0 0 1 0 0 0 1 0 0 0 1 0 0 0 1 0 0",
  "0 1 0 0 0 1 0 0 2 1 0 0 0 1 0 0 0 1 0 0 0 1 0 0 0 1 0 0 0 1 0 0 0 1 0 0 0 1 0 0 0 1 0 0 0 1 0",
  "0 0 1 0 0 0 1 0 0 0 1 0 0 0 1 0 0 0 1 0 0 0 1 0 0 0 1 0 0 0 1 0 0 0 1 0 0 0 1 0 0 0 1 0 0 0 1",
  "0 0 0 1 0 0 0 1 0 0 0 1 0 0 0 1 0 0 0 1 0 0 0 1 0 0 0 1 0 0 0 1 0 0 0 1 0 0 0 1 0 3 7 1 0 0 0",
  "1 0 0 0 1 1 0 0 1 0 0 0 1 0 0 0 1 0 0 0 1 0 0 0 1 0 3 1 k 0 0 0 1 0 0 0 1 0 4 0 0 0 1 0 0 2 1",
  "0 0 0 1 0 0 0 1 0 0 0 1 0 0 0 1 0 0 0 1 0 0 0 1 0 0 0 1 0 0 0 1 0 0 0 1 0 0 0 1 4 0 0 1 4 0 0",
  "1 0 0 0 1 0 0 0 1 0 0 0 1 0 0 0 1 0 0 0 1 0 0 0 1 0 0 0 1 3 0 0 1 0 0 0 1 4 t 0 0 0 1 0 t 0 1",
  "0 t 0 1 0 0 0 1 0 0 0 1 n t 2 3 0 0 0 1 0 4 1 3 0 1 6 4 0 5 2 4 0 5 3 4 0 5 m 4 1 6 1 5 0 6 3",
  "l 0 5 2 t 5 a 1 l 0 j 0 l 5 t 1f 4 3 h 7 t 1 6 1d 4 f 6 1 5 7 t 1 h 9 8 5 t h 5 5 4 2 h 0 4 0",
  "h 1 4 0 5 9 8 r 4 7 5 1 h m 4 a 5 1 6 a t 0 h s 4 2 t 2 5 0 6 1a 4 0 5 1 6 3 5 1 6 1 5 2 6 c h",
  "0 t 0 3 9 8 3 t 1 h 4 4 0 5 0 3 8 4 9 8 4 4 0 t 14 4 5 5 1 6 1 5 1 6 1 5 8 t 2 4 0 5 7 4 0 5 0",
  "6 1 t 9 8 1 t 3 h f 4 0 3 5 4 2 l 0 4 0 6 0 5 0 6 1d 4 0 5 0 4 2 5 1 4 1 5 4 4 1 5 0 4 0 5 0 4",
  "n t 1 4 0 3 1 h a 4 0 6 1 5 1 6 1 h 0 4 1 3 0 6 0 5 9 t 5 4 1 t 5 4 1 t 5 4 8 t 6 4 0 t 6 4 0",
  "t 16 1 0 k 3 3 8 1 0 3 1 k 3 t 27 1 y 4 1 6 0 5 1 6 0 5 1 6 0 h 0 6 0 5 1 t 9 8 5 t 8mb 4 b t",
  "m 4 3 t 1c 4 3 t 1kv r 4xr s a5 4 1 t 2x 4 11 t 6 1 b t 4 1 4 t 0 4 0 5 9 4 0 i c 4 0 t 4 4 0",
  "t 0 4 0 t 1 4 0 t 1 4 0 t 2z 4 g k f t a2 4 0 e 0 d f l 1r 4 1 t 1h 4 6 t 0 l v t b 4 0 j 2 l",
  "f 5 6 h 0 d 0 e 0 h 5 t f 5 0 h 1 c 1 b 0 d 0 e 0 d 0 e 0 d 0 e 0 d 0 e 0 d 0 e 0 d 0 e 0 d 0",
  "e 0 d 0 e 1 h 0 d 0 e 3 h 2 b 2 h 0 t 3 h 0 c 0 d 0 e 0 d 0 e 0 d 0 e 2 h 0 i 0 c 2 i 0 t 0 h",
  "0 j 1 h 3 t 4 4 0 t 3q 4 1 t 0 q 0 t 2 h 0 j 2 h 0 d 0 e 0 h 0 i 0 h 0 c 1 h 9 8 1 h 2 i 1 h p",
  "0 0 d 0 h 0 e 0 k 0 b 0 k p 1 0 d 0 i 0 e 0 i 0 d 0 e 0 h 0 d 0 e 1 h 9 4 0 3 18 4 1 3 u 4 2 t",
  "5 4 1 t 5 4 1 t 5 4 1 t 2 4 2 t 1 j 0 i 0 k 0 l 1 j 0 t 0 l 3 i 1 l 9 t 2 q 1 l 1 t b 4 0 t p",
  "4 0 t i 4 0 t 1 4 0 t e 4 1 t d 4 x t 3e 4 4 t 2 h 3 t 18 a 2 t 8 l 1g 9 3 a g l 1 a 2 l 0 t c",
  "l 2 t 0 l 1a t 18 l 0 5 3l t s 4 2 t 1c 4 e t 0 5 q a 3 t v 4 3 a 8 t j 4 0 9 7 4 0 9 4 t 11 4",
  "4 5 4 t t 4 0 t 0 h z 4 3 t 7 4 0 h 4 9 15 t 13 0 13 1 25 4 1 t 9 8 5 t z 0 3 t z 1 3 t 13 4 7",
  "t 1f 4 a t 0 h a 0 0 t e 0 0 t 6 0 0 t 1 0 0 t a 1 0 t e 1 0 t 6 1 0 t 1 1 1u t 8m 4 8 t l 4 9",
  "t 7 4 n t 5 3 0 t 15 3 0 t 8 3 1w t 5 4 1 t 0 4 0 t 17 4 0 t 1 4 2 t 0 4 1 t m 4 0 t 0 h 7 a m",
  "4 1 l 6 a u 4 7 t 8 a 1b t i 4 0 t 1 4 4 t 4 a l 4 5 a 2 t 0 h p 4 4 t 0 h 1r t 1j 4 3 t 1 a 1",
  "4 f a 1 t 19 a 0 4 2 5 0 t 1 5 4 t 3 5 3 4 0 t 2 4 0 t s 4 1 t 2 5 3 t 0 5 8 a 6 t 8 h 6 t s 4",
  "1 a 0 h s 4 2 a v t 7 4 0 l r 4 1 5 3 t 4 a 6 h 8 t 1h 4 2 t 6 h l 4 1 t 7 a i 4 4 t 7 a h 4 6",
  "t 3 h b t 6 a 27 t 20 4 1i t 1e 0 c t 1e 1 6 t 5 a z 4 3 5 7 t 9 8 85 t u a 0 t 15 4 0 t 1 5 0",
  "c 1 t 1 4 22 t 2 5 s 4 9 a 0 4 7 t l 4 a 5 3 a 4 h l t h 4 3 5 3 h 11 t k 4 6 a j t m 4 8 t 0",
  "6 0 5 0 6 1g 4 e 5 6 h 3 t j a 9 8 0 5 1 4 1 5 0 4 8 t 2 5 0 6 18 4 2 6 3 5 1 6 1 5 1 h 0 q 3",
  "h 0 5 9 t 0 q 1 t o 4 6 t 9 8 5 t 2 5 z 4 4 5 0 6 7 5 0 t 9 8 3 h 0 4 1 6 0 4 7 t y 4 0 5 1 h",
  "0 4 8 t 1 5 0 6 1b 4 2 6 8 5 1 6 3 4 3 h 3 5 0 h 0 6 0 5 9 8 0 4 0 h 0 4 2 h 0 t j a a t h 4 0",
  "t o 4 2 6 2 5 1 6 0 5 0 6 1 5 5 h 0 5 1 4 0 5 1p t 6 4 0 t 0 4 0 t 3 4 0 t e 4 0 t 9 4 0 h 5 t",
  "1a 4 0 5 2 6 7 5 4 t 9 8 5 t 1 5 1 6 0 t 7 4 1 t 1 4 1 t l 4 0 t 6 4 0 t 1 4 0 t 4 4 0 t 1 5 0",
  "4 1 6 0 5 3 6 1 t 1 6 1 t 2 6 1 t 0 4 5 t 0 6 4 t 4 4 1 6 1 t 6 5 2 t 4 5 3u t 1g 4 2 6 7 5 1",
  "6 2 5 0 6 0 5 3 4 4 h 9 8 1 h 0 t 0 h 0 5 2 4 t t 1b 4 2 6 5 5 0 6 0 5 3 6 1 5 0 6 1 5 1 4 0 h",
  "0 4 7 t 9 8 4l t 1a 4 2 6 3 5 1 t 3 6 1 5 0 6 1 5 m h 3 4 1 5 x t 1b 4 2 6 7 5 1 6 0 5 0 6 1 5",
  "2 h 0 4 a t 9 8 5 t c h i t 16 4 0 5 0 6 0 5 1 6 5 5 0 6 0 5 0 4 0 h 5 t 9 8 1h t q 4 1 t 2 5",
  "1 6 3 5 0 6 4 5 3 t 9 8 1 a 2 h 0 l 6 4 54 t 17 4 2 6 8 5 0 6 1 5 0 h 2r t v 0 v 1 9 8 8 a b t",
  "7 4 1 t 0 4 1 t 7 4 0 t 1 4 0 t n 4 5 6 0 t 1 6 1 t 1 5 0 6 0 5 0 4 0 6 0 4 0 6 0 5 2 h 8 t 9",
  "8 1x t 7 4 1 t 12 4 2 6 3 5 1 t 1 5 3 6 0 5 0 4 0 h 0 4 0 6 q t 0 4 9 5 13 4 5 5 0 6 0 4 3 5 7",
  "h 0 5 7 t 0 4 5 5 1 6 2 5 19 4 c 5 0 6 1 5 2 h 0 4 4 h c t 20 4 6 t 9 h 6t t 8 4 0 t 10 4 0 6",
  "6 5 0 t 5 5 0 6 0 5 0 4 4 h 9 t 9 8 i a 2 t 1 h t 4 1 t l 5 0 t 0 6 6 5 0 6 1 5 0 6 1 5 20 t 6",
  "4 0 t 1 4 0 t 11 4 5 5 2 t 0 5 0 t 1 5 0 t 6 5 0 4 0 5 7 t 9 8 5 t 5 4 0 t 1 4 0 t v 4 4 6 0 t",
  "1 5 0 t 1 6 0 5 0 6 0 5 0 4 6 t 9 8 8l t i 4 1 5 1 6 1 h 6 t 1 5 0 4 0 6 c 4 0 t x 4 1 6 4 5 2",
  "t 1 6 0 5 0 6 0 5 c h 9 8 2d t 0 4 e t k a 7 l 3 j g l c t 0 h pl 4 2t t 32 9 0 t 4 h a t 5f 4",
  "217 t 2o 4 1 h c t tr 4 f q 0 5 5 4 e 5 33d t g6 4 6ns t fs 4 6 t u 4 0 t 9 8 3 t 1 h 26 4 0 t",
  "9 8 5 t t 4 1 t 4 5 0 h 9 t 1b 4 6 5 4 h 3 l 3 3 0 h 0 l 9 t 9 8 0 t 6 a 0 t k 4 4 t i 4 j3 t",
  "v 0 v 1 m a 3 h 2s t 22 4 3 t 0 5 0 4 1i 6 6 t 3 5 c 3 1r t 1 3 0 h 0 3 0 5 a t 1 6 d t 4qf 4",
  "7 t yd 4 15 t 8 4 6w6 t 3 3 0 t 6 3 0 t 1 3 0 t 82 4 e t 0 4 s t 2 4 1 t 0 4 d t 3 4 7 t az 4",
  "1s3 t 2y 4 4 t c 4 2 t 8 4 6 t 9 4 1 t 0 l 1 5 0 h 3 q 3mj t 19 5 1 t m 5 8 t 37 l 1n t 6t l 9",
  "t 12 l 1 t 1n l 1 6 2 5 2 l 5 6 7 q 7 5 1 l 6 5 t l 3 5 1o l k t 1t l 2 5 0 l 3d t j a b t j a",
  "b t 2e l 8 t o a 3q t p 0 p 1 p 0 6 1 0 t h 1 p 0 p 1 0 0 0 t 1 0 1 t 0 0 1 t 1 0 1 t 3 0 0 t",
  "7 0 3 1 0 t 0 1 0 t 6 1 0 t a 1 p 0 p 1 1 0 0 t 3 0 1 t 7 0 0 t 6 0 0 t p 1 1 0 0 t 3 0 0 t 4",
  "0 0 t 0 0 2 t 6 0 0 t p 1 p 0 p 1 p 0 p 1 p 0 p 1 p 0 p 1 p 0 p 1 p 0 r 1 1 t o 0 0 i o 1 0 i",
  "5 1 o 0 0 i o 1 0 i 5 1 o 0 0 i o 1 0 i 5 1 o 0 0 i o 1 0 i 5 1 o 0 0 i o 1 0 i 5 1 0 0 0 1 1",
  "t 1d 8 e7 l 1i 5 3 l 1d 5 7 l 0 5 d l 0 5 1 l 4 h e t 4 5 0 t e 5 un t 9 1 0 4 j 1 5 t 5 1 5w",
  "t 6 5 0 t g 5 1 t 6 5 0 t 1 5 0 t 4 5 4 t 1p 3 w t 0 5 33 t 18 4 2 t 6 5 6 3 1 t 9 8 3 t 0 4 0",
  "l 8v t t 4 0 5 g t 17 4 3 5 9 8 4 t 0 j cv t q 4 0 3 3 5 9 8 kl t 6 4 0 t 3 4 0 t 1 4 0 t e 4",
  "0 t 5g 4 1 t 8 a 6 5 14 t x 0 x 1 6 5 0 3 3 t 9 8 3 t 1 h ls t 1m a 0 l 2 a 0 j 3 a 23 t 18 a",
  "0 l e a 5d t 3 4 0 t q 4 0 t 1 4 0 t 0 4 1 t 0 4 0 t 9 4 0 t 3 4 0 t 0 4 0 t 0 4 5 t 0 4 3 t 0",
  "4 0 t 0 4 0 t 0 4 0 t 2 4 0 t 1 4 0 t 0 4 1 t 0 4 0 t 0 4 0 t 0 4 0 t 0 4 0 t 0 4 0 t 1 4 0 t",
  "0 4 1 t 3 4 0 t 6 4 0 t 3 4 0 t 3 4 0 t 0 4 0 t 9 4 0 t g 4 4 t 2 4 0 t 4 4 0 t g 4 1f t 1 i",
  "7h t 17 l 3 t 2r l b t e l 1 t e l 0 t e l 0 t 10 l 9 t c a 4g l 1j t s l c t 17 l 3 t 8 l 6 t",
  "1 l d t 5 l 49 t 6y l 4 k k7 l 3 t g l 2 t c l 2 t 3a l 3 t 2m l 5 t b l 3 t 0 l e t b l 3 t",
  "1j l 7 t 9 l 5 t 13 l 7 t t l 1 t 1 l 25 t 9f l b t d l 1 t c l 2 t 8 l 6 t 19 l 0 t 6 l 7 t d",
  "l 3 t 8 l 6 t 8 l 6 t 42 l 0 t 1i l 10 t 9 8 sl t wyn 4 v t 37d 4 5 t 65 4 1 t 4g1 4 d t 5rk 4",
  "e t h9 4 1wh t f1 4 15t t 3t6 4 4 t 38f 4 f974 t 0 q t t 2n q 3j t 6n 5 1e6n t 1ekd s 1 t 1ekd",
  "s 1 t"]

end Rulebook
