/-
  LETTER CASE data (Unicode 15).

  A mapping is a list of runs `start count step shift`, in decimal: the `count` code points
  `start`, `start + step`, ... each map to themselves plus `shift`.  `CaseRun.unpack` reads
  that form.  Characters whose upper or lower case is more than one character stand apart.
-/

namespace ExerciseGrading.Text.LetterCase

/-- Characters whose lower case is one other character. -/
def lowerRuns : List String :=
  ["65 26 1 32 192 23 1 32 216 7 1 32 256 24 2 1 306 3 2 1 313 8 2 1 330 23 2 1 376 1 1 -121 377",
    "3 2 1 385 1 1 210 386 2 2 1 390 1 1 206 391 1 1 1 393 2 1 205 395 1 1 1 398 1 1 79 399 1 1",
    "202 400 1 1 203 401 1 1 1 403 1 1 205 404 1 1 207 406 1 1 211 407 1 1 209 408 1 1 1 412 1 1",
    "211 413 1 1 213 415 1 1 214 416 3 2 1 422 1 1 218 423 1 1 1 425 1 1 218 428 1 1 1 430 1 1",
    "218 431 1 1 1 433 2 1 217 435 2 2 1 439 1 1 219 440 1 1 1 444 1 1 1 452 1 1 2 453 1 1 1 455",
    "1 1 2 456 1 1 1 458 1 1 2 459 9 2 1 478 9 2 1 497 1 1 2 498 2 2 1 502 1 1 -97 503 1 1 -56",
    "504 20 2 1 544 1 1 -130 546 9 2 1 570 1 1 10795 571 1 1 1 573 1 1 -163 574 1 1 10792 577 1 1",
    "1 579 1 1 -195 580 1 1 69 581 1 1 71 582 5 2 1 880 2 2 1 886 1 1 1 895 1 1 116 902 1 1 38",
    "904 3 1 37 908 1 1 64 910 2 1 63 913 17 1 32 931 9 1 32 975 1 1 8 984 12 2 1 1012 1 1 -60",
    "1015 1 1 1 1017 1 1 -7 1018 1 1 1 1021 3 1 -130 1024 16 1 80 1040 32 1 32 1120 17 2 1 1162",
    "27 2 1 1216 1 1 15 1217 7 2 1 1232 48 2 1 1329 38 1 48 4256 38 1 7264 4295 1 1 7264 4301 1 1",
    "7264 5024 80 1 38864 5104 6 1 8 7312 43 1 -3008 7357 3 1 -3008 7680 75 2 1 7838 1 1 -7615",
    "7840 48 2 1 7944 8 1 -8 7960 6 1 -8 7976 8 1 -8 7992 8 1 -8 8008 6 1 -8 8025 4 2 -8 8040 8 1",
    "-8 8072 8 1 -8 8088 8 1 -8 8104 8 1 -8 8120 2 1 -8 8122 2 1 -74 8124 1 1 -9 8136 4 1 -86",
    "8140 1 1 -9 8152 2 1 -8 8154 2 1 -100 8168 2 1 -8 8170 2 1 -112 8172 1 1 -7 8184 2 1 -128",
    "8186 2 1 -126 8188 1 1 -9 8486 1 1 -7517 8490 1 1 -8383 8491 1 1 -8262 8498 1 1 28 8544 16 1",
    "16 8579 1 1 1 9398 26 1 26 11264 48 1 48 11360 1 1 1 11362 1 1 -10743 11363 1 1 -3814 11364",
    "1 1 -10727 11367 3 2 1 11373 1 1 -10780 11374 1 1 -10749 11375 1 1 -10783 11376 1 1 -10782",
    "11378 1 1 1 11381 1 1 1 11390 2 1 -10815 11392 50 2 1 11499 2 2 1 11506 1 1 1 42560 23 2 1",
    "42624 14 2 1 42786 7 2 1 42802 31 2 1 42873 2 2 1 42877 1 1 -35332 42878 5 2 1 42891 1 1 1",
    "42893 1 1 -42280 42896 2 2 1 42902 10 2 1 42922 1 1 -42308 42923 1 1 -42319 42924 1 1 -42315",
    "42925 1 1 -42305 42926 1 1 -42308 42928 1 1 -42258 42929 1 1 -42282 42930 1 1 -42261 42931 1",
    "1 928 42932 8 2 1 42948 1 1 -48 42949 1 1 -42307 42950 1 1 -35384 42951 2 2 1 42960 1 1 1",
    "42966 2 2 1 42997 1 1 1 65313 26 1 32 66560 40 1 40 66736 36 1 40 66928 11 1 39 66940 15 1",
    "39 66956 7 1 39 66964 2 1 39 68736 51 1 64 71840 32 1 32 93760 32 1 32 125184 34 1 34"]

/-- Characters whose upper case is one other character. -/
def upperRuns : List String :=
  ["97 26 1 -32 181 1 1 743 224 23 1 -32 248 7 1 -32 255 1 1 121 257 24 2 -1 305 1 1 -232 307 3",
    "2 -1 314 8 2 -1 331 23 2 -1 378 3 2 -1 383 1 1 -300 384 1 1 195 387 2 2 -1 392 1 1 -1 396 1",
    "1 -1 402 1 1 -1 405 1 1 97 409 1 1 -1 410 1 1 163 414 1 1 130 417 3 2 -1 424 1 1 -1 429 1 1",
    "-1 432 1 1 -1 436 2 2 -1 441 1 1 -1 445 1 1 -1 447 1 1 56 453 1 1 -1 454 1 1 -2 456 1 1 -1",
    "457 1 1 -2 459 1 1 -1 460 1 1 -2 462 8 2 -1 477 1 1 -79 479 9 2 -1 498 1 1 -1 499 1 1 -2 501",
    "1 1 -1 505 20 2 -1 547 9 2 -1 572 1 1 -1 575 2 1 10815 578 1 1 -1 583 5 2 -1 592 1 1 10783",
    "593 1 1 10780 594 1 1 10782 595 1 1 -210 596 1 1 -206 598 2 1 -205 601 1 1 -202 603 1 1 -203",
    "604 1 1 42319 608 1 1 -205 609 1 1 42315 611 1 1 -207 613 1 1 42280 614 1 1 42308 616 1 1",
    "-209 617 1 1 -211 618 1 1 42308 619 1 1 10743 620 1 1 42305 623 1 1 -211 625 1 1 10749 626 1",
    "1 -213 629 1 1 -214 637 1 1 10727 640 1 1 -218 642 1 1 42307 643 1 1 -218 647 1 1 42282 648",
    "1 1 -218 649 1 1 -69 650 2 1 -217 652 1 1 -71 658 1 1 -219 669 1 1 42261 670 1 1 42258 837 1",
    "1 84 881 2 2 -1 887 1 1 -1 891 3 1 130 940 1 1 -38 941 3 1 -37 945 17 1 -32 962 1 1 -31 963",
    "9 1 -32 972 1 1 -64 973 2 1 -63 976 1 1 -62 977 1 1 -57 981 1 1 -47 982 1 1 -54 983 1 1 -8",
    "985 12 2 -1 1008 1 1 -86 1009 1 1 -80 1010 1 1 7 1011 1 1 -116 1013 1 1 -96 1016 1 1 -1 1019",
    "1 1 -1 1072 32 1 -32 1104 16 1 -80 1121 17 2 -1 1163 27 2 -1 1218 7 2 -1 1231 1 1 -15 1233",
    "48 2 -1 1377 38 1 -48 4304 43 1 3008 4349 3 1 3008 5112 6 1 -8 7296 1 1 -6254 7297 1 1 -6253",
    "7298 1 1 -6244 7299 2 1 -6242 7301 1 1 -6243 7302 1 1 -6236 7303 1 1 -6181 7304 1 1 35266",
    "7545 1 1 35332 7549 1 1 3814 7566 1 1 35384 7681 75 2 -1 7835 1 1 -59 7841 48 2 -1 7936 8 1",
    "8 7952 6 1 8 7968 8 1 8 7984 8 1 8 8000 6 1 8 8017 4 2 8 8032 8 1 8 8048 2 1 74 8050 4 1 86",
    "8054 2 1 100 8056 2 1 128 8058 2 1 112 8060 2 1 126 8112 2 1 8 8126 1 1 -7205 8144 2 1 8",
    "8160 2 1 8 8165 1 1 7 8526 1 1 -28 8560 16 1 -16 8580 1 1 -1 9424 26 1 -26 11312 48 1 -48",
    "11361 1 1 -1 11365 1 1 -10795 11366 1 1 -10792 11368 3 2 -1 11379 1 1 -1 11382 1 1 -1 11393",
    "50 2 -1 11500 2 2 -1 11507 1 1 -1 11520 38 1 -7264 11559 1 1 -7264 11565 1 1 -7264 42561 23",
    "2 -1 42625 14 2 -1 42787 7 2 -1 42803 31 2 -1 42874 2 2 -1 42879 5 2 -1 42892 1 1 -1 42897 2",
    "2 -1 42900 1 1 48 42903 10 2 -1 42933 8 2 -1 42952 2 2 -1 42961 1 1 -1 42967 2 2 -1 42998 1",
    "1 -1 43859 1 1 -928 43888 80 1 -38864 65345 26 1 -32 66600 40 1 -40 66776 36 1 -40 66967 11",
    "1 -39 66979 15 1 -39 66995 7 1 -39 67003 2 1 -39 68800 51 1 -64 71872 32 1 -32 93792 32 1",
    "-32 125218 34 1 -34"]

/-- Simple case folding: the common form of letters that differ only in case. -/
def foldRuns : List String :=
  ["65 26 1 32 181 1 1 775 192 23 1 32 216 7 1 32 256 24 2 1 306 3 2 1 313 8 2 1 330 23 2 1 376",
    "1 1 -121 377 3 2 1 383 1 1 -268 385 1 1 210 386 2 2 1 390 1 1 206 391 1 1 1 393 2 1 205 395",
    "1 1 1 398 1 1 79 399 1 1 202 400 1 1 203 401 1 1 1 403 1 1 205 404 1 1 207 406 1 1 211 407 1",
    "1 209 408 1 1 1 412 1 1 211 413 1 1 213 415 1 1 214 416 3 2 1 422 1 1 218 423 1 1 1 425 1 1",
    "218 428 1 1 1 430 1 1 218 431 1 1 1 433 2 1 217 435 2 2 1 439 1 1 219 440 1 1 1 444 1 1 1",
    "452 1 1 2 453 1 1 1 455 1 1 2 456 1 1 1 458 1 1 2 459 9 2 1 478 9 2 1 497 1 1 2 498 2 2 1",
    "502 1 1 -97 503 1 1 -56 504 20 2 1 544 1 1 -130 546 9 2 1 570 1 1 10795 571 1 1 1 573 1 1",
    "-163 574 1 1 10792 577 1 1 1 579 1 1 -195 580 1 1 69 581 1 1 71 582 5 2 1 837 1 1 116 880 2",
    "2 1 886 1 1 1 895 1 1 116 902 1 1 38 904 3 1 37 908 1 1 64 910 2 1 63 913 17 1 32 931 9 1 32",
    "962 1 1 1 975 1 1 8 976 1 1 -30 977 1 1 -25 981 1 1 -15 982 1 1 -22 984 12 2 1 1008 1 1 -54",
    "1009 1 1 -48 1012 1 1 -60 1013 1 1 -64 1015 1 1 1 1017 1 1 -7 1018 1 1 1 1021 3 1 -130 1024",
    "16 1 80 1040 32 1 32 1120 17 2 1 1162 27 2 1 1216 1 1 15 1217 7 2 1 1232 48 2 1 1329 38 1 48",
    "4256 38 1 7264 4295 1 1 7264 4301 1 1 7264 5112 6 1 -8 7296 1 1 -6222 7297 1 1 -6221 7298 1",
    "1 -6212 7299 2 1 -6210 7301 1 1 -6211 7302 1 1 -6204 7303 1 1 -6180 7304 1 1 35267 7312 43 1",
    "-3008 7357 3 1 -3008 7680 75 2 1 7835 1 1 -58 7838 1 1 -7615 7840 48 2 1 7944 8 1 -8 7960 6",
    "1 -8 7976 8 1 -8 7992 8 1 -8 8008 6 1 -8 8025 4 2 -8 8040 8 1 -8 8072 8 1 -8 8088 8 1 -8",
    "8104 8 1 -8 8120 2 1 -8 8122 2 1 -74 8124 1 1 -9 8126 1 1 -7173 8136 4 1 -86 8140 1 1 -9",
    "8152 2 1 -8 8154 2 1 -100 8168 2 1 -8 8170 2 1 -112 8172 1 1 -7 8184 2 1 -128 8186 2 1 -126",
    "8188 1 1 -9 8486 1 1 -7517 8490 1 1 -8383 8491 1 1 -8262 8498 1 1 28 8544 16 1 16 8579 1 1 1",
    "9398 26 1 26 11264 48 1 48 11360 1 1 1 11362 1 1 -10743 11363 1 1 -3814 11364 1 1 -10727",
    "11367 3 2 1 11373 1 1 -10780 11374 1 1 -10749 11375 1 1 -10783 11376 1 1 -10782 11378 1 1 1",
    "11381 1 1 1 11390 2 1 -10815 11392 50 2 1 11499 2 2 1 11506 1 1 1 42560 23 2 1 42624 14 2 1",
    "42786 7 2 1 42802 31 2 1 42873 2 2 1 42877 1 1 -35332 42878 5 2 1 42891 1 1 1 42893 1 1",
    "-42280 42896 2 2 1 42902 10 2 1 42922 1 1 -42308 42923 1 1 -42319 42924 1 1 -42315 42925 1 1",
    "-42305 42926 1 1 -42308 42928 1 1 -42258 42929 1 1 -42282 42930 1 1 -42261 42931 1 1 928",
    "42932 8 2 1 42948 1 1 -48 42949 1 1 -42307 42950 1 1 -35384 42951 2 2 1 42960 1 1 1 42966 2",
    "2 1 42997 1 1 1 43888 80 1 -38864 65313 26 1 32 66560 40 1 40 66736 36 1 40 66928 11 1 39",
    "66940 15 1 39 66956 7 1 39 66964 2 1 39 68736 51 1 64 71840 32 1 32 93760 32 1 32 125184 34",
    "1 34"]

/-- Characters whose lower case is several characters. -/
def lowerMany : List (Nat × List Nat) := [(0x130, [0x69, 0x307])]

/-- Characters whose upper case is several characters. -/
def upperMany : List (Nat × List Nat) := [
  (0xdf, [0x53, 0x53]), (0x149, [0x2bc, 0x4e]), (0x1f0, [0x4a, 0x30c]),
  (0x390, [0x399, 0x308, 0x301]), (0x3b0, [0x3a5, 0x308, 0x301]), (0x587, [0x535, 0x552]),
  (0x1e96, [0x48, 0x331]), (0x1e97, [0x54, 0x308]), (0x1e98, [0x57, 0x30a]),
  (0x1e99, [0x59, 0x30a]), (0x1e9a, [0x41, 0x2be]), (0x1f50, [0x3a5, 0x313]),
  (0x1f52, [0x3a5, 0x313, 0x300]), (0x1f54, [0x3a5, 0x313, 0x301]), (0x1f56, [0x3a5, 0x313, 0x342]),
  (0x1f80, [0x1f08, 0x399]), (0x1f81, [0x1f09, 0x399]), (0x1f82, [0x1f0a, 0x399]),
  (0x1f83, [0x1f0b, 0x399]), (0x1f84, [0x1f0c, 0x399]), (0x1f85, [0x1f0d, 0x399]),
  (0x1f86, [0x1f0e, 0x399]), (0x1f87, [0x1f0f, 0x399]), (0x1f88, [0x1f08, 0x399]),
  (0x1f89, [0x1f09, 0x399]), (0x1f8a, [0x1f0a, 0x399]), (0x1f8b, [0x1f0b, 0x399]),
  (0x1f8c, [0x1f0c, 0x399]), (0x1f8d, [0x1f0d, 0x399]), (0x1f8e, [0x1f0e, 0x399]),
  (0x1f8f, [0x1f0f, 0x399]), (0x1f90, [0x1f28, 0x399]), (0x1f91, [0x1f29, 0x399]),
  (0x1f92, [0x1f2a, 0x399]), (0x1f93, [0x1f2b, 0x399]), (0x1f94, [0x1f2c, 0x399]),
  (0x1f95, [0x1f2d, 0x399]), (0x1f96, [0x1f2e, 0x399]), (0x1f97, [0x1f2f, 0x399]),
  (0x1f98, [0x1f28, 0x399]), (0x1f99, [0x1f29, 0x399]), (0x1f9a, [0x1f2a, 0x399]),
  (0x1f9b, [0x1f2b, 0x399]), (0x1f9c, [0x1f2c, 0x399]), (0x1f9d, [0x1f2d, 0x399]),
  (0x1f9e, [0x1f2e, 0x399]), (0x1f9f, [0x1f2f, 0x399]), (0x1fa0, [0x1f68, 0x399]),
  (0x1fa1, [0x1f69, 0x399]), (0x1fa2, [0x1f6a, 0x399]), (0x1fa3, [0x1f6b, 0x399]),
  (0x1fa4, [0x1f6c, 0x399]), (0x1fa5, [0x1f6d, 0x399]), (0x1fa6, [0x1f6e, 0x399]),
  (0x1fa7, [0x1f6f, 0x399]), (0x1fa8, [0x1f68, 0x399]), (0x1fa9, [0x1f69, 0x399]),
  (0x1faa, [0x1f6a, 0x399]), (0x1fab, [0x1f6b, 0x399]), (0x1fac, [0x1f6c, 0x399]),
  (0x1fad, [0x1f6d, 0x399]), (0x1fae, [0x1f6e, 0x399]), (0x1faf, [0x1f6f, 0x399]),
  (0x1fb2, [0x1fba, 0x399]), (0x1fb3, [0x391, 0x399]), (0x1fb4, [0x386, 0x399]),
  (0x1fb6, [0x391, 0x342]), (0x1fb7, [0x391, 0x342, 0x399]), (0x1fbc, [0x391, 0x399]),
  (0x1fc2, [0x1fca, 0x399]), (0x1fc3, [0x397, 0x399]), (0x1fc4, [0x389, 0x399]),
  (0x1fc6, [0x397, 0x342]), (0x1fc7, [0x397, 0x342, 0x399]), (0x1fcc, [0x397, 0x399]),
  (0x1fd2, [0x399, 0x308, 0x300]), (0x1fd3, [0x399, 0x308, 0x301]), (0x1fd6, [0x399, 0x342]),
  (0x1fd7, [0x399, 0x308, 0x342]), (0x1fe2, [0x3a5, 0x308, 0x300]), (0x1fe3, [0x3a5, 0x308, 0x301]),
  (0x1fe4, [0x3a1, 0x313]), (0x1fe6, [0x3a5, 0x342]), (0x1fe7, [0x3a5, 0x308, 0x342]),
  (0x1ff2, [0x1ffa, 0x399]), (0x1ff3, [0x3a9, 0x399]), (0x1ff4, [0x38f, 0x399]),
  (0x1ff6, [0x3a9, 0x342]), (0x1ff7, [0x3a9, 0x342, 0x399]), (0x1ffc, [0x3a9, 0x399]),
  (0xfb00, [0x46, 0x46]), (0xfb01, [0x46, 0x49]), (0xfb02, [0x46, 0x4c]),
  (0xfb03, [0x46, 0x46, 0x49]), (0xfb04, [0x46, 0x46, 0x4c]), (0xfb05, [0x53, 0x54]),
  (0xfb06, [0x53, 0x54]), (0xfb13, [0x544, 0x546]), (0xfb14, [0x544, 0x535]),
  (0xfb15, [0x544, 0x53b]), (0xfb16, [0x54e, 0x546]), (0xfb17, [0x544, 0x53d])]

end ExerciseGrading.Text.LetterCase
