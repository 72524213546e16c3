/-!
  Two properties of characters that decide how they may follow each other in domain names: the
  direction they are written in, and how they join their neighbours.  All numbers are in base
  sixteen; a position is given as the distance from the one before it.
-/

namespace Switchyard.Net.Idna

/-- Where the direction changes: position, and the number of the new direction. -/
def directionText : String := "
0 9 9 c 1 b 1 c 1 d 1 b 1 9 e b 3 c 1 d 1 8 2 7 3 8 5 5 1 6 1 5 1 6 2 4 a 6 1 8 26 0 1a 8 4 9 22 8
1 7 4 8 a 7 6 8 29 0 18 8 1 0 1c1 8 2 0 7 8 e 0 2 8 1c 0 1 8 11 a 71 0 4 8 2 0 7f 8 2 0 8b a 8 0
ff 8 5 7 2 a 2d 1 1 a 1 1 1 a 2 1 1 a 2 1 1 a 9 1 36 8 2 2 1 7 2 2 1 6 1 2 1 8 2 a b 2 30 a 15 3 a
7 1 3 2 2 3 a 1 2 65 a 8 8 1 a 6 2 2 a 2 8 1 a 4 2 2 4 a 2 17 a 1 2 1e a 1d 2 59 a b 2 f 1 2b a 9
1 2 8 4 1 3 a 1 1 18 a 4 1 1 a 9 1 1 a 3 1 1 a 7 1 29 a 5 1 2 2 38 a 8 2 2a a 39 0 37 a 1 0 1 a 1
0 4 a 8 0 4 a 1 0 3 a f 0 2 a 2 0 1d a 1 0 3a a 1 0 4 a 6 0 6 a 1 0 14 a 4 0 c 7 2 0 7 7 1 0 2 a 5
0 39 a 2 0 3 a 1b 0 14 a 2 0 3 a 1 0 b a 2 0 39 a 1 0 4 a 8 0 4 a 3 0 12 a 4 0 b 7 8 0 1 a 8 0 3a
a 1 0 2 a 1 0 1 a 6 0 6 a a 0 b a 4 0 1c a 1 0 3d a 1 0 c a 3 0 23 8 6 7 1 8 6 a 1 0 3 a 1 0 37 a
1 0 1 a 3 0 5 a 12 0 a a 4 0 12 8 7 0 2 a 1 0 3a a 1 0 f a 9 0 d a 4 0 1a a 2 0 39 a 2 0 4 a 5 0 7
a 1 0 14 a 4 0 1b a 1 0 48 a 5 0 3 a 6 0 59 a 1 0 2 a b 7 1 0 7 a 8 0 62 a 1 0 2 a 9 0 b a 8 0 48
a 2 0 1b a 1 0 1 a 1 0 1 a 1 8 4 0 33 a e 0 1 a 5 0 1 a 2 0 5 a 31 0 8 a 1 0 66 a 4 0 1 a 6 0 1 a
2 0 2 a 2 0 19 a 2 0 4 a 3 0 10 a 4 0 d a 1 0 2 a 2 0 6 a 1 0 f a 1 0 2bf a 3 0 30 8 10 0 60 8 1 0
29a 8 5 0 72 a 3 0 1d a 2 0 1e a e 0 12 a e 0 37 a 7 0 8 a 1 0 2 a b 0 7 7 1 0 1 a 3 0 10 8 20 0
75 a 2 0 22 a 1 0 76 a 3 0 4 a 2 0 9 a 1 0 6 a 7 8 6 0 98 8 22 0 17 a 2 0 2 a 3 0 38 a 1 0 1 a 9 0
1 a 1 0 2 a 8 0 6 a d 0 30 a 54 0 30 a 1 0 1 a 5 0 1 a 1 0 5 a 1 0 28 a 9 0 c a 2 0 20 a 4 0 2 a 2
0 1 a 3 0 38 a 1 0 1 a 2 0 3 a 1 0 1 a 3 0 3a a 8 0 2 a 5 0 95 a 3 0 1 a d 0 1 a 7 0 4 a 1 0 6 a 1
0 3 a 2 0 c6 a 41 0 20b 9 4 8 20 7 5 8 f 6 1 8 5b 7 30 a 34 8 2a 7 c 8 14 0 3c 8 88 5 1 7 1 8 122
0 45 8 1a 0 1 8 316 0 1 8 153 0 100 8 330 0 b5 8 7 0 3 a 4 0 6 8 7 0 7f a 1 0 60 a 20 8 205 0 3 8
19 0 9 a 4 0 2 8 1 0 6 8 4 0 2 8 4 0 58 a 4 0 3 8 1 0 5a 8 1 0 c4 8 30 0 1bd0 8 40 0 5690 8 40 0
13d 8 3 0 5f a 4 8 1 a a 8 3 0 1d a 2 0 50 a 2 0 e 8 23 0 65 8 1 0 79 a 1 0 3 a 1 0 4 a 1 0 19 a 2
0 1 8 4 a 4 0 8 7 8 0 34 8 c 0 44 a a 0 12 a 12 0 d a 1 0 26 a 8 0 19 a b 0 2e a 3 0 30 a 1 0 2 a
4 0 2 a 2 0 27 a 1 0 43 a 6 0 2 a 2 0 2 a b 0 3 a 1 0 8 a 1 0 2f a 1 0 33 a 1 0 1 a 3 0 2 a 2 0 5
a 2 0 1 a 1 0 2a a 2 0 8 a b 0 69 8 56 0 25 a 1 0 2 a 1 0 4 a 3 0 4f2e a 94 2 18c 8 e2 a 25 8 2e 2
18d 0 101 8 1 0 3e 8 4d 0 3 8 40 0 2d a 83 0 60 a 1 4 1f 0 76 a a 0 480 1 11f 8 1 1 e1 a f 1 28 a
8 1 a5 a 6 1 4e 8 7 1 1c0 2 24 a c 3 150 1 2b a 2 1 83 2 16 a b 2 1f 1 12 a 4 1 7a 0 1 a 1 0 36 a
f 0 b 8 14 0 a a 1 0 2 a 2 0 a a 3 0 31 a 4 0 2 a 2 0 7 a e 0 30 a 3 0 24 a 5 0 1 a 9 0 3d a 1 0 c
a 2 0 34 a 9 0 a a 4 0 2 a 1 0 5f a 3 0 2 a 1 0 1 a 2 0 6 a 42 0 5f a 1 0 3 a d 0 10 a 2 0 39 a 2
0 3 a 1 0 25 a 9a 0 38 a 8 0 2 a 3 0 1 a 1 0 17 a 1 0 54 a 6 0 1 a 1 0 4 a 2 0 1 a 2 0 ee a 6 0 4
a 2 0 1 a 2 0 1b a 24 0 33 a 8 0 2 a 1 0 1 a 2 0 1f 8 20 0 2b a 1 0 1 a 1 0 2 a 6 0 1 a 1 0 65 a 3
0 2 a 4 0 1 a 9 0 ff a 9 0 1 a 2 0 100 a 2 0 1 a 1 0 4 a 1 0 90 a 8 0 4 a 1 0 20 a 6 0 2 a 2 0 28
a 6 0 2 a 4 0 8 a 9 0 1 a 6 0 2 a 3 0 2e a d 0 1 a 2 0 196 a e 0 54 a 17 0 1 a 7 0 1 a 2 0 1 a 4b
0 31 a 15 0 1 a 9 0 40 a 3 0 2 a 1 0 1 a 1 0 15b a 2 0 e0 8 8 7 4 8 1e 0 4af1 a 5 0 3b a 7 0 418 a
1 0 3f a 4 0 4f 8 1 0 1 a c 0 4cad a 2 0 1261 a 50 0 217 a 3 0 11 a 8 0 2 a 7 0 1e a 4 0 3b 8 59 a
3 8 9b 0 20 8 60 0 6a0 a 37 0 4 a 32 0 8 a 1 0 e a 1 0 16 a 465 0 100 a 100 0 30 a 7 0 177 a 12 0
2c a 4 0 f 7 4e1 0 20 1 d0 a 52 1 22 a 7 1 326 2 27f 8 260 0 1d 8 3 0 3d 8 39 0 7a 8 da0 0"

/-- Characters that join: position, how many in a row, and the number of the way. -/
def joiningText : String := "
ad 1 4 253 70 4 183 7 4 10e 2d 4 2e 1 4 2 2 4 3 2 4 3 1 4 49 b 4 c 1 4 4 1 1 2 4 3 4 1 1 1 1 3 1 1
1 1 1 3 1 5 1 5 4 3 4 d 1 d 1 0 1 7 1 7 1 3 1 2 1 2 15 4 23 2 1 2 1 4 1 3 3 4 3 3 3 10 1 10 12 3
12 26 1 26 1 3 1 2 1 2 9 3 9 1 1 1 1 3 1 1 1 1 1 3 1 2 1 2 2 3 3 1 3 1 7 4 9 6 4 8 2 4 3 4 4 4 2 3
c 3 1 5 1 1 10 1 4 1 1 3 1 1 4 1 3 1 3 5 3 5 4 1 4 1 3 1 9 1 9 1 3 1 1 1 1 1 3 1 1 1 1 1 3 1 2 1 2
1 3 1 1b 4 1d 1 3 1 b 1 b 3 3 3 f 1 f 2 3 2 4 1 4 1 3 1 1 1 1 2 3 2 3 1 3 2 3 2 6 1 2c b 4 24 21 1
21 9 4 f 1 0 3 1 4 19 4 4 5 9 4 a 3 4 4 5 4 17 1 3 1 5 1 5 2 3 2 1 1 1 1 3 1 a 1 a 1 3 1 1 1 1 3 3
3 3 4 7 1 1 2 4 1 5 1 3 1 1 1 1 2 3 7 13 3 13 3 0 3 1 1 3 5 1 5 1 3 1 1 1 8 9 4 9 a 1 a 3 3 4 1 3
1 2 1 2 2 3 2 6 1 6 1 3 1 f 1 10 18 4 19 20 4 57 1 4 2 1 4 5 8 4 c 1 4 4 7 4 11 2 4 1f 1 4 3b 1 4
5 4 4 c 1 4 15 2 4 1c 1 4 3 2 4 3b 1 4 5 2 4 6 2 4 4 3 4 6 1 4 1f 2 4 5 1 4 c 2 4 3b 1 4 5 5 4 6 2
4 6 1 4 15 2 4 18 6 4 7 1 4 3b 1 4 3 1 4 2 4 4 c 1 4 8 2 4 d 2 4 20 1 4 3e 1 4 d 1 4 33 1 4 4 1 4
38 1 4 2 3 4 8 3 4 4 4 4 b 2 4 d 2 4 1f 1 4 3b 1 4 3 1 4 7 1 4 6 2 4 16 2 4 1e 2 4 3b 2 4 6 4 4 c
1 4 15 2 4 1f 1 4 49 1 4 8 3 4 4 1 4 5b 1 4 3 7 4 13 8 4 6a 1 4 3 9 4 14 7 4 50 2 4 1d 1 4 2 1 4 2
1 4 38 e 4 f 5 4 6 2 4 7 b 4 c 24 4 2d 1 4 67 4 4 5 6 4 7 2 4 4 2 4 1b 2 4 6 3 4 13 4 4 11 1 4 3 2
4 8 1 4 10 1 4 2c0 3 4 3b5 3 4 20 2 4 20 2 4 20 2 4 42 2 4 3 7 4 f 1 4 3 b 4 14 1 4 2a 1 1 3 1 0 1
3 4 4 1 4 11 59 1 65 2 4 2 22 1 22 1 4 1 1 1 76 3 4 7 2 4 b 1 4 7 3 4 de 2 4 4 1 4 3b 1 4 2 7 4 8
1 4 2 1 4 3 8 4 e a 4 c 1 4 31 2e 4 30 c 4 20 4 4 34 1 4 2 5 4 6 1 4 6 1 4 29 9 4 15 2 4 22 4 4 6
2 4 3 3 4 3b 1 4 2 2 4 5 1 4 2 3 4 3d 8 4 a 2 4 9a 3 4 4 d 4 e 7 4 b 1 4 7 1 4 4 2 4 c8 40 4 24b 1
4 2 1 0 1 2 4 1c 5 4 36 5 4 a 6 4 66 21 4 c1f 3 4 90 1 4 61 20 4 24a 4 4 6f 2 4 75d6 4 4 5 a 4 2a
2 4 52 2 4 112 1 4 4 1 4 5 1 4 1a 2 4 7 1 4 14 32 1 32 1 2 52 2 4 1c 12 4 1f 1 4 27 8 4 21 b 4 39
3 4 33 1 4 3 4 4 6 2 4 29 1 4 44 6 4 8 2 4 4 2 4 e 1 4 9 1 4 30 1 4 34 1 4 2 3 4 5 2 4 7 2 4 3 1 4
2b 2 4 a 1 4 ef 1 4 3 1 4 5 1 4 4f31 1 4 2e2 10 4 20 10 4 df 1 4 fa 3 4 204 1 4 e3 1 4 96 5 4 68b
3 4 4 2 4 7 4 4 2c 3 4 7 1 4 81 5 1 5 1 3 2 1 3 2 2 3 4 1 2 1 5 3 5 4 1 4 1 2 1 5 1 5 1 3 1 3 1 3
1 3 3 1 3 1 2 4 6 4 1 4 1 3 91 1 1 1 1 3 1 1 1 1 3 3 3 3 1 3 1 3 1 2 1 2 1 3 1 1 1 1 2 3 2 1 1 1 1
3 18 4 3 4 2 1 153 1 2 1 21 1 21 1 3 1 1 1 1 4 4 45 5 4 142 2 4 17 1 3 1 2 1 3 2 1 34 6 4 36 3 1 3
1 3 1 11 1 12 b 4 b 3 1 3 1 3 1c 4 1 4 2 3 2 c 1 c 4 4 2e 1 1 2 2 1 2 3 3 4 1 1 1 2 3 2 2 1 2 1 3
1 2 1 3 1 1 1 2 3 2 1 1 5 1 3 1 1 1 1 1 2 36 1 4 37 f 4 38 1 4 3 2 4 c 3 4 34 4 4 6 2 4 9 1 4 3e 3
4 27 5 4 6 8 4 46 1 4 d 2 4 36 9 4 13 4 4 6 1 4 60 3 4 5 1 4 2 2 4 8 1 4 3 1 4 9e 1 4 4 8 4 1d 2 4
3b 2 4 5 1 4 26 7 4 a 5 4 4b 6 4 13 1 4 2 1 4 2 1 4 f 2 4 57 8 4 a 3 4 4 1 4 18 1 4 55 6 4 7 1 4 5
2 4 3 2 4 f0 4 4 a 2 4 3 2 4 1d 2 4 57 8 4 a 1 4 2 2 4 6c 1 4 2 1 4 3 6 4 7 1 4 66 1 4 2 1 4 3 4 4
5 5 4 108 9 4 a 2 4 102 2 4 3 1 4 5 1 4 91 4 4 6 2 4 6 1 4 21 a 4 32 6 4 8 4 4 c 1 4 a 6 4 8 3 4
31 d 4 e 2 4 c8 1 4 2 3 4 4 1 4 ca 7 4 8 6 4 7 1 4 53 16 4 18 7 4 8 2 4 3 2 4 7c 6 4 9 1 4 2 2 4 3
7 4 8 1 4 49 2 4 5 1 4 2 1 4 15c 2 4 d 2 4 36 5 4 a 1 4 2 1 4 18 1 4 14d6 11 4 17 f 4 2cd7 c 4 f 3
4 9c3 5 4 40 7 4 41f 1 4 40 4 4 55 1 4 4cb9 2 4 3 4 4 1260 2e 4 30 17 4 237 3 4 c 10 4 12 7 4 25 4
4 98 3 4 7be 37 4 3b 32 4 3a 1 4 f 1 4 17 5 4 6 f 4 55f 7 4 8 11 4 13 7 4 8 2 4 3 5 4 69 1 4 a1 7
4 17e 1 4 3e 4 4 200 4 4 102 2 4 f5 1 4 3 1 4 8 2 4 7 1 4 1db 7 4 30 44 1 44 8 4 c16bd 1 4 1f 60 4
e0 f0 4"

end Switchyard.Net.Idna
