/-! Characters that one other character stands for in a domain, in hexadecimal numbers. -/

namespace Availability.Url.Domain

/-- Runs of characters: distance from the run before, how many there are, the step from one to the next, and what
stands for the first. -/
def shiftLines : List String := [
  "41.1a.1.61 45.1.1.20 9.1.1.61 7.2.1.32 1.1.1.3bc 3.1.1.31 0.1.1.6f 5.17.1.e0 1.7.1.f8 21.18.2.101",
  "5.2.2.135 2.3.2.13a 3.4.2.142 2.17.2.14b 1.1.1.ff 0.3.2.17a 1.1.1.73 1.1.1.253 0.2.2.183 1.1.1.254",
  "0.1.1.188 1.2.1.256 0.1.1.18c 2.1.1.1dd 0.1.1.259 0.1.1.25b 0.1.1.192 1.1.1.260 0.1.1.263 1.1.1.269",
  "0.1.1.268 0.1.1.199 3.1.1.26f 0.1.1.272 1.1.1.275 0.3.2.1a1 1.1.1.280 0.1.1.1a8 1.1.1.283 2.1.1.1ad",
  "1.1.1.288 0.1.1.1b0 1.2.1.28a 0.2.2.1b4 1.1.1.292 0.1.1.1b9 3.1.1.1bd 10.8.2.1ce 2.9.2.1df 5.1.1.1f5",
  "1.1.1.195 0.1.1.1bf 0.14.2.1f9 1.1.1.19e 1.9.2.223 7.1.1.2c65 0.1.1.23c 1.1.1.19a 0.1.1.2c66 2.1.1.242",
  "1.1.1.180 0.1.1.289 0.1.1.28c 0.5.2.247 61.1.1.68 0.1.1.266 0.1.1.6a 0.1.1.72 0.1.1.279 0.1.1.27b",
  "0.1.1.281 0.1.1.77 0.1.1.79 27.1.1.263 0.1.1.6c 0.1.1.73 0.1.1.78 0.1.1.295 5b.2.1.300 1.1.1.313 1.1.1.3b9",
  "2a.2.2.371 1.1.1.2b9 1.1.1.377 7.1.1.3b 0.1.1.3f3 6.1.1.3ac 0.1.1.b7 0.3.1.3ad 1.1.1.3cc 1.2.1.3cd",
  "1.11.1.3b1 1.9.1.3c3 23.1.1.3d7 0.1.1.3b2 0.1.1.3b8 0.1.1.3c5 0.1.1.3cd 0.1.1.3cb 0.1.1.3c6 0.1.1.3c0",
  "1.c.2.3d9 1.1.1.3ba 0.1.1.3c1 0.1.1.3c3 1.1.1.3b8 0.1.1.3b5 1.1.1.3f8 1.1.1.3c3 0.1.1.3fb 2.3.1.37b",
  "0.10.1.450 0.20.1.430 30.11.2.461 9.1b.2.48b 1.1.1.4cf 0.7.2.4c2 2.30.2.4d1 2.26.1.561 9b5.1.1.f0b",
  "193.26.1.2d00 1.1.1.2d27 5.1.1.2d2d 2e.1.1.10dc 2fb.6.1.13f0 882.1.1.432 0.1.1.434 0.1.1.43e 0.2.1.441",
  "0.1.1.442 0.1.1.44a 0.1.1.463 0.1.1.a64b 0.1.1.1c8a 6.2b.1.10d0 2.3.1.10fd 6c.1.1.61 0.1.1.e6 0.2.2.62",
  "0.1.1.65 0.1.1.1dd 0.8.1.67 1.1.1.6f 0.1.1.223 0.1.1.70 0.1.1.72 0.2.1.74 0.1.1.77 0.1.1.61 0.2.1.250",
  "0.1.1.1d02 0.1.1.62 0.2.1.64 0.1.1.259 0.2.1.25b 0.1.1.67 1.1.1.6b 0.1.1.6d 0.1.1.14b 0.1.1.6f 0.1.1.254",
  "0.2.1.1d16 0.1.1.70 0.2.1.74 0.1.1.1d1d 0.1.1.26f 0.1.1.76 0.1.1.1d25 0.3.1.3b2 0.2.1.3c6 0.1.1.69",
  "0.1.1.72 0.2.1.75 0.2.1.3b2 0.1.1.3c1 0.2.1.3c6 d.1.1.43d 22.1.1.252 0.1.1.63 0.1.1.255 0.1.1.f0 0.1.1.25c",
  "0.1.1.66 0.1.1.25f 0.1.1.261 0.1.1.265 0.3.1.268 0.1.1.1d7b 0.1.1.29d 0.1.1.26d 0.1.1.1d85 0.1.1.29f",
  "0.1.1.271 0.1.1.270 0.4.1.272 0.1.1.278 0.2.1.282 0.1.1.1ab 0.2.1.289 0.1.1.1d1c 0.2.1.28b 0.1.1.7a",
  "0.3.1.290 0.1.1.3b8 40.4b.2.1e01 6.1.1.1e61 2.1.1.df 1.30.2.1ea1 9.8.1.1f00 8.6.1.1f10 a.8.1.1f20",
  "8.8.1.1f30 8.6.1.1f40 b.4.2.1f51 8.8.1.1f60 1.1.1.3ac 1.1.1.3ad 1.1.1.3ae 1.1.1.3af 1.1.1.3cc 1.1.1.3cd",
  "1.1.1.3ce 3a.2.1.1fb0 0.1.1.1f70 0.1.1.3ac 2.1.1.3b9 9.1.1.1f72 0.1.1.3ad 0.1.1.1f74 0.1.1.3ae 7.1.1.390",
  "4.2.1.1fd0 0.1.1.1f76 0.1.1.3af 7.1.1.3b0 4.2.1.1fe0 0.1.1.1f7a 0.1.1.3cd 0.1.1.1fe5 2.1.1.60 8.1.1.1f78",
  "0.1.1.3cc 0.1.1.1f7c 0.1.1.3ce 4.1.1.20 0.1.1.20 0.1.1.20 0.1.1.20 0.1.1.20 0.1.1.20 0.1.1.20 0.1.1.20",
  "0.1.1.20 0.1.1.20 0.1.1.20 6.1.1.2010 1d.1.1.20 2f.1.1.20 10.1.1.30 0.1.1.69 2.6.1.34 0.1.1.2b 0.1.1.2212",
  "0.1.1.3d 0.2.1.28 0.1.1.6e 0.a.1.30 0.1.1.2b 0.1.1.2212 0.1.1.3d 0.2.1.28 1.1.1.61 0.1.1.65 0.1.1.6f",
  "0.1.1.78 0.1.1.259 0.1.1.68 0.4.1.6b 0.1.1.70 0.2.1.73 65.1.1.63 4.1.1.25b 2.2.1.67 0.1.1.68 0.1.1.68",
  "0.1.1.68 0.1.1.127 0.1.1.69 0.1.1.69 0.1.1.6c 0.2.2.6c 3.3.1.70 0.1.1.72 0.1.1.72 6.1.1.7a 1.1.1.3c9",
  "1.1.1.7a 1.1.1.6b 0.1.1.e5 0.2.1.62 1.1.1.65 0.2.1.65 0.1.1.214e 0.1.1.6d 0.1.1.6f 0.4.1.5d0 0.1.1.69",
  "2.1.1.3c0 0.1.1.3b3 0.1.1.3b3 0.1.1.3c0 0.1.1.2211 4.1.1.64 0.2.1.64 0.2.1.69 16.1.1.69 3.1.1.76 4.1.1.78",
  "2.1.1.6c 0.2.1.63 0.1.1.6d 0.1.1.69 3.1.1.76 4.1.1.78 2.1.1.6c 0.2.1.63 0.1.1.6d 3.1.1.2184 1a5.2.1.3008",
  "135.9.1.31 4d.1a.1.61 0.1a.1.61 0.1.1.30 715.30.1.2c30 30.1.1.2c61 1.1.1.26b 0.1.1.1d7d 0.1.1.27d",
  "2.3.2.2c68 1.1.1.251 0.1.1.271 0.1.1.250 0.1.1.252 1.1.1.2c73 2.1.1.2c76 6.1.1.6a 0.1.1.76 0.2.1.23f",
  "0.32.2.2c81 8.2.2.2cec 4.1.1.2cf3 7c.1.1.2d61 12f.1.1.6bcd 53.1.1.9f9f c.1.1.4e00 0.1.1.4e28 0.1.1.4e36",
  "0.1.1.4e3f 0.1.1.4e59 0.1.1.4e85 0.1.1.4e8c 0.1.1.4ea0 0.1.1.4eba 0.1.1.513f 0.1.1.5165 0.1.1.516b",
  "0.1.1.5182 0.1.1.5196 0.1.1.51ab 0.1.1.51e0 0.1.1.51f5 0.1.1.5200 0.1.1.529b 0.1.1.52f9 0.1.1.5315",
  "0.1.1.531a 0.1.1.5338 0.1.1.5341 0.1.1.535c 0.1.1.5369 0.1.1.5382 0.1.1.53b6 0.1.1.53c8 0.1.1.53e3",
  "0.1.1.56d7 0.1.1.571f 0.1.1.58eb 0.1.1.5902 0.1.1.590a 0.1.1.5915 0.1.1.5927 0.1.1.5973 0.1.1.5b50",
  "0.1.1.5b80 0.1.1.5bf8 0.1.1.5c0f 0.1.1.5c22 0.1.1.5c38 0.1.1.5c6e 0.1.1.5c71 0.1.1.5ddb 0.1.1.5de5",
  "0.1.1.5df1 0.1.1.5dfe 0.1.1.5e72 0.1.1.5e7a 0.1.1.5e7f 0.1.1.5ef4 0.1.1.5efe 0.1.1.5f0b 0.1.1.5f13",
  "0.1.1.5f50 0.1.1.5f61 0.1.1.5f73 0.1.1.5fc3 0.1.1.6208 0.1.1.6236 0.1.1.624b 0.1.1.652f 0.1.1.6534",
  "0.1.1.6587 0.1.1.6597 0.1.1.65a4 0.1.1.65b9 0.1.1.65e0 0.1.1.65e5 0.1.1.66f0 0.1.1.6708 0.1.1.6728",
  "0.1.1.6b20 0.1.1.6b62 0.1.1.6b79 0.1.1.6bb3 0.1.1.6bcb 0.1.1.6bd4 0.1.1.6bdb 0.1.1.6c0f 0.1.1.6c14",
  "0.1.1.6c34 0.1.1.706b 0.1.1.722a 0.1.1.7236 0.1.1.723b 0.1.1.723f 0.1.1.7247 0.1.1.7259 0.1.1.725b",
  "0.1.1.72ac 0.1.1.7384 0.1.1.7389 0.1.1.74dc 0.1.1.74e6 0.1.1.7518 0.1.1.751f 0.1.1.7528 0.1.1.7530",
  "0.1.1.758b 0.1.1.7592 0.1.1.7676 0.1.1.767d 0.1.1.76ae 0.1.1.76bf 0.1.1.76ee 0.1.1.77db 0.1.1.77e2",
  "0.1.1.77f3 0.1.1.793a 0.1.1.79b8 0.1.1.79be 0.1.1.7a74 0.1.1.7acb 0.1.1.7af9 0.1.1.7c73 0.1.1.7cf8",
  "0.1.1.7f36 0.1.1.7f51 0.1.1.7f8a 0.1.1.7fbd 0.1.1.8001 0.1.1.800c 0.1.1.8012 0.1.1.8033 0.1.1.807f",
  "0.1.1.8089 0.1.1.81e3 0.1.1.81ea 0.1.1.81f3 0.1.1.81fc 0.1.1.820c 0.1.1.821b 0.1.1.821f 0.1.1.826e",
  "0.1.1.8272 0.1.1.8278 0.1.1.864d 0.1.1.866b 0.1.1.8840 0.1.1.884c 0.1.1.8863 0.1.1.897e 0.1.1.898b",
  "0.1.1.89d2 0.1.1.8a00 0.1.1.8c37 0.1.1.8c46 0.1.1.8c55 0.1.1.8c78 0.1.1.8c9d 0.1.1.8d64 0.1.1.8d70",
  "0.1.1.8db3 0.1.1.8eab 0.1.1.8eca 0.1.1.8f9b 0.1.1.8fb0 0.1.1.8fb5 0.1.1.9091 0.1.1.9149 0.1.1.91c6",
  "0.1.1.91cc 0.1.1.91d1 0.1.1.9577 0.1.1.9580 0.1.1.961c 0.1.1.96b6 0.1.1.96b9 0.1.1.96e8 0.1.1.9751",
  "0.1.1.975e 0.1.1.9762 0.1.1.9769 0.1.1.97cb 0.1.1.97ed 0.1.1.97f3 0.1.1.9801 0.1.1.98a8 0.1.1.98db",
  "0.1.1.98df 0.1.1.9996 0.1.1.9999 0.1.1.99ac 0.1.1.9aa8 0.1.1.9ad8 0.1.1.9adf 0.1.1.9b25 0.1.1.9b2f",
  "0.1.1.9b32 0.1.1.9b3c 0.1.1.9b5a 0.1.1.9ce5 0.1.1.9e75 0.1.1.9e7f 0.1.1.9ea5 0.1.1.9ebb 0.1.1.9ec3",
  "0.1.1.9ecd 0.1.1.9ed1 0.1.1.9ef9 0.1.1.9efd 0.1.1.9f0e 0.1.1.9f13 0.1.1.9f20 0.1.1.9f3b 0.1.1.9f4a",
  "0.1.1.9f52 0.1.1.9f8d 0.1.1.9f9c 0.1.1.9fa0 2a.1.1.20 1.1.1.2e 33.1.1.3012 1.1.1.5341 0.2.1.5344",
  "f6.2.1.1100 0.1.1.11aa 0.1.1.1102 0.2.1.11ac 0.3.1.1103 0.6.1.11b0 0.1.1.111a 0.3.1.1106 0.1.1.1121",
  "0.a.1.1109 0.15.1.1161 1.2.1.1114 0.2.1.11c7 0.1.1.11cc 0.1.1.11ce 0.1.1.11d3 0.1.1.11d7 0.1.1.11d9",
  "0.1.1.111c 0.1.1.11dd 0.1.1.11df 0.2.1.111d 0.1.1.1120 0.2.1.1122 0.1.1.1127 0.1.1.1129 0.5.1.112b",
  "0.1.1.1132 0.1.1.1136 0.1.1.1140 0.1.1.1147 0.1.1.114c 0.2.1.11f1 0.3.1.1157 0.2.1.1184 0.1.1.1188",
  "0.2.1.1191 0.1.1.1194 0.1.1.119e 0.1.1.11a1 3.1.1.4e00 0.1.1.4e8c 0.1.1.4e09 0.1.1.56db 0.1.1.4e0a",
  "0.1.1.4e2d 0.1.1.4e0b 0.1.1.7532 0.1.1.4e59 0.1.1.4e19 0.1.1.4e01 0.1.1.5929 0.1.1.5730 0.1.1.4eba",
  "a4.1.1.554f 0.1.1.5e7c 0.1.1.6587 0.1.1.7b8f 18.1.1.1100 0.2.1.1102 0.3.1.1105 0.1.1.1109 0.2.1.110b",
  "0.5.1.110e 0.1.1.ac00 0.1.1.b098 0.1.1.b2e4 0.1.1.b77c 0.1.1.b9c8 0.1.1.bc14 0.1.1.c0ac 0.1.1.c544",
  "0.1.1.c790 0.1.1.cc28 0.1.1.ce74 0.1.1.d0c0 0.1.1.d30c 0.1.1.d558 2.1.1.c6b0 1.1.1.4e00 0.1.1.4e8c",
  "0.1.1.4e09 0.1.1.56db 0.1.1.4e94 0.1.1.516d 0.1.1.4e03 0.1.1.516b 0.1.1.4e5d 0.1.1.5341 0.1.1.6708",
  "0.1.1.706b 0.1.1.6c34 0.1.1.6728 0.1.1.91d1 0.1.1.571f 0.1.1.65e5 0.1.1.682a 0.1.1.6709 0.1.1.793e",
  "0.1.1.540d 0.1.1.7279 0.1.1.8ca1 0.1.1.795d 0.1.1.52b4 0.1.1.79d8 0.1.1.7537 0.1.1.5973 0.1.1.9069",
  "0.1.1.512a 0.1.1.5370 0.1.1.6ce8 0.1.1.9805 0.1.1.4f11 0.1.1.5199 0.1.1.6b63 0.1.1.4e0a 0.1.1.4e2d",
  "0.1.1.4e0b 0.1.1.5de6 0.1.1.53f3 0.1.1.533b 0.1.1.5b97 0.1.1.5b66 0.1.1.76e3 0.1.1.4f01 0.1.1.8cc7",
  "0.1.1.5354 0.1.1.591c 1f.1.1.30a2 0.1.1.30a4 0.1.1.30a6 0.1.1.30a8 0.2.1.30aa 0.1.1.30ad 0.1.1.30af",
  "0.1.1.30b1 0.1.1.30b3 0.1.1.30b5 0.1.1.30b7 0.1.1.30b9 0.1.1.30bb 0.1.1.30bd 0.1.1.30bf 0.1.1.30c1",
  "0.1.1.30c4 0.1.1.30c6 0.1.1.30c8 0.6.1.30ca 0.1.1.30d2 0.1.1.30d5 0.1.1.30d8 0.1.1.30db 0.5.1.30de",
  "0.1.1.30e4 0.1.1.30e6 0.6.1.30e8 0.4.1.30ef 7341.17.2.a641 13.e.2.a681 1.1.1.44a 0.1.1.44c 84.7.2.a723",
  "3.1f.2.a733 1.1.1.a76f 8.2.2.a77a 1.1.1.1d79 0.5.2.a77f 4.1.1.a78c 1.1.1.265 2.2.2.a791 3.a.2.a797",
  "1.1.1.266 0.1.1.25c 0.1.1.261 0.1.1.26c 0.1.1.26a 1.1.1.29e 0.1.1.287 0.1.1.29d 0.1.1.ab53 0.8.2.a7b5",
  "1.1.1.a794 0.1.1.282 0.1.1.1d8e 0.2.2.a7c8 1.1.1.264 0.8.2.a7cd 1.1.1.19b 14.1.1.73 0.1.1.63 0.1.1.66",
  "0.1.1.71 0.1.1.a7f6 2.1.1.127 0.1.1.153 362.1.1.a727 0.1.1.ab37 0.1.1.26b 0.1.1.ab52 9.1.1.28d 6.50.1.13a0",
  "4d40.1.1.8c48 0.1.1.66f4 0.1.1.8eca 0.1.1.8cc8 0.1.1.6ed1 0.1.1.4e32 0.1.1.53e5 0.1.1.9f9c 0.1.1.9f9c",
  "0.1.1.5951 0.1.1.91d1 0.1.1.5587 0.1.1.5948 0.1.1.61f6 0.1.1.7669 0.1.1.7f85 0.1.1.863f 0.1.1.87ba",
  "0.1.1.88f8 0.1.1.908f 0.1.1.6a02 0.1.1.6d1b 0.1.1.70d9 0.1.1.73de 0.1.1.843d 0.1.1.916a 0.1.1.99f1",
  "0.1.1.4e82 0.1.1.5375 0.1.1.6b04 0.1.1.721b 0.1.1.862d 0.1.1.9e1e 0.1.1.5d50 0.1.1.6feb 0.1.1.85cd",
  "0.1.1.8964 0.1.1.62c9 0.1.1.81d8 0.1.1.881f 0.1.1.5eca 0.1.1.6717 0.1.1.6d6a 0.1.1.72fc 0.1.1.90ce",
  "0.1.1.4f86 0.1.1.51b7 0.1.1.52de 0.1.1.64c4 0.1.1.6ad3 0.1.1.7210 0.1.1.76e7 0.1.1.8001 0.1.1.8606",
  "0.1.1.865c 0.1.1.8def 0.1.1.9732 0.1.1.9b6f 0.1.1.9dfa 0.1.1.788c 0.1.1.797f 0.1.1.7da0 0.1.1.83c9",
  "0.1.1.9304 0.1.1.9e7f 0.1.1.8ad6 0.1.1.58df 0.1.1.5f04 0.1.1.7c60 0.1.1.807e 0.1.1.7262 0.1.1.78ca",
  "0.1.1.8cc2 0.1.1.96f7 0.1.1.58d8 0.1.1.5c62 0.1.1.6a13 0.1.1.6dda 0.1.1.6f0f 0.1.1.7d2f 0.1.1.7e37",
  "0.1.1.964b 0.1.1.52d2 0.1.1.808b 0.1.1.51dc 0.1.1.51cc 0.1.1.7a1c 0.1.1.7dbe 0.1.1.83f1 0.1.1.9675",
  "0.1.1.8b80 0.1.1.62cf 0.1.1.6a02 0.1.1.8afe 0.1.1.4e39 0.1.1.5be7 0.1.1.6012 0.1.1.7387 0.1.1.7570",
  "0.1.1.5317 0.1.1.78fb 0.1.1.4fbf 0.1.1.5fa9 0.1.1.4e0d 0.1.1.6ccc 0.1.1.6578 0.1.1.7d22 0.1.1.53c3",
  "0.1.1.585e 0.1.1.7701 0.1.1.8449 0.1.1.8aaa 0.1.1.6bba 0.1.1.8fb0 0.1.1.6c88 0.1.1.62fe 0.1.1.82e5",
  "0.1.1.63a0 0.1.1.7565 0.1.1.4eae 0.1.1.5169 0.1.1.51c9 0.1.1.6881 0.1.1.7ce7 0.1.1.826f 0.1.1.8ad2",
  "0.1.1.91cf 0.1.1.52f5 0.1.1.5442 0.1.1.5973 0.1.1.5eec 0.1.1.65c5 0.1.1.6ffe 0.1.1.792a 0.1.1.95ad",
  "0.1.1.9a6a 0.1.1.9e97 0.1.1.9ece 0.1.1.529b 0.1.1.66c6 0.1.1.6b77 0.1.1.8f62 0.1.1.5e74 0.1.1.6190",
  "0.1.1.6200 0.1.1.649a 0.1.1.6f23 0.1.1.7149 0.1.1.7489 0.1.1.79ca 0.1.1.7df4 0.1.1.806f 0.1.1.8f26",
  "0.1.1.84ee 0.1.1.9023 0.1.1.934a 0.1.1.5217 0.1.1.52a3 0.1.1.54bd 0.1.1.70c8 0.1.1.88c2 0.1.1.8aaa",
  "0.1.1.5ec9 0.1.1.5ff5 0.1.1.637b 0.1.1.6bae 0.1.1.7c3e 0.1.1.7375 0.1.1.4ee4 0.1.1.56f9 0.1.1.5be7",
  "0.1.1.5dba 0.1.1.601c 0.1.1.73b2 0.1.1.7469 0.1.1.7f9a 0.1.1.8046 0.1.1.9234 0.1.1.96f6 0.1.1.9748",
  "0.1.1.9818 0.1.1.4f8b 0.1.1.79ae 0.1.1.91b4 0.1.1.96b8 0.1.1.60e1 0.1.1.4e86 0.1.1.50da 0.1.1.5bee",
  "0.1.1.5c3f 0.1.1.6599 0.1.1.6a02 0.1.1.71ce 0.1.1.7642 0.1.1.84fc 0.1.1.907c 0.1.1.9f8d 0.1.1.6688",
  "0.1.1.962e 0.1.1.5289 0.1.1.677b 0.1.1.67f3 0.1.1.6d41 0.1.1.6e9c 0.1.1.7409 0.1.1.7559 0.1.1.786b",
  "0.1.1.7d10 0.1.1.985e 0.1.1.516d 0.1.1.622e 0.1.1.9678 0.1.1.502b 0.1.1.5d19 0.1.1.6dea 0.1.1.8f2a",
  "0.1.1.5f8b 0.1.1.6144 0.1.1.6817 0.1.1.7387 0.1.1.9686 0.1.1.5229 0.1.1.540f 0.1.1.5c65 0.1.1.6613",
  "0.1.1.674e 0.1.1.68a8 0.1.1.6ce5 0.1.1.7406 0.1.1.75e2 0.1.1.7f79 0.1.1.88cf 0.1.1.88e1 0.1.1.91cc",
  "0.1.1.96e2 0.1.1.533f 0.1.1.6eba 0.1.1.541d 0.1.1.71d0 0.1.1.7498 0.1.1.85fa 0.1.1.96a3 0.1.1.9c57",
  "0.1.1.9e9f 0.1.1.6797 0.1.1.6dcb 0.1.1.81e8 0.1.1.7acb 0.1.1.7b20 0.1.1.7c92 0.1.1.72c0 0.1.1.7099",
  "0.1.1.8b58 0.1.1.4ec0 0.1.1.8336 0.1.1.523a 0.1.1.5207 0.1.1.5ea6 0.1.1.62d3 0.1.1.7cd6 0.1.1.5b85",
  "0.1.1.6d1e 0.1.1.66b4 0.1.1.8f3b 0.1.1.884c 0.1.1.964d 0.1.1.898b 0.1.1.5ed3 0.1.1.5140 0.1.1.55c0",
  "2.1.1.585a 1.1.1.6674 2.1.1.51de 0.1.1.732a 0.1.1.76ca 0.1.1.793c 0.1.1.795e 0.1.1.7965 0.1.1.798f",
  "0.1.1.9756 0.1.1.7cbe 0.1.1.7fbd 1.1.1.8612 1.1.1.8af8 2.1.1.9038 0.1.1.90fd 3.1.1.98ef 0.1.1.98fc",
  "0.1.1.9928 0.1.1.9db4 0.1.1.90de 0.1.1.96b7 0.1.1.4fae 0.1.1.50e7 0.1.1.514d 0.1.1.52c9 0.1.1.52e4",
  "0.1.1.5351 0.1.1.559d 0.1.1.5606 0.1.1.5668 0.1.1.5840 0.1.1.58a8 0.1.1.5c64 0.1.1.5c6e 0.1.1.6094",
  "0.1.1.6168 0.1.1.618e 0.1.1.61f2 0.1.1.654f 0.1.1.65e2 0.1.1.6691 0.1.1.6885 0.1.1.6d77 0.1.1.6e1a",
  "0.1.1.6f22 0.1.1.716e 0.1.1.722b 0.1.1.7422 0.1.1.7891 0.1.1.793e 0.1.1.7949 0.1.1.7948 0.1.1.7950",
  "0.1.1.7956 0.1.1.795d 0.2.1.798d 0.1.1.7a40 0.1.1.7a81 0.1.1.7bc0 0.1.1.7df4 0.1.1.7e09 0.1.1.7e41",
  "0.1.1.7f72 0.1.1.8005 0.1.1.81ed 0.1.1.8279 0.1.1.8279 0.1.1.8457 0.1.1.8910 0.1.1.8996 0.1.1.8b01",
  "0.1.1.8b39 0.1.1.8cd3 0.1.1.8d08 0.1.1.8fb6 0.1.1.9038 0.1.1.96e3 0.1.1.97ff 0.1.1.983b 0.1.1.6075",
  "0.1.1.242ee 0.1.1.8218 2.1.1.4e26 0.1.1.51b5 0.1.1.5168 0.1.1.4f80 0.1.1.5145 0.1.1.5180 0.1.1.52c7",
  "0.1.1.52fa 0.1.1.559d 0.1.1.5555 0.1.1.5599 0.1.1.55e2 0.1.1.585a 0.1.1.58b3 0.1.1.5944 0.1.1.5954",
  "0.1.1.5a62 0.1.1.5b28 0.1.1.5ed2 0.1.1.5ed9 0.1.1.5f69 0.1.1.5fad 0.1.1.60d8 0.1.1.614e 0.1.1.6108",
  "0.1.1.618e 0.1.1.6160 0.1.1.61f2 0.1.1.6234 0.1.1.63c4 0.1.1.641c 0.1.1.6452 0.1.1.6556 0.1.1.6674",
  "0.1.1.6717 0.1.1.671b 0.1.1.6756 0.1.1.6b79 0.1.1.6bba 0.1.1.6d41 0.1.1.6edb 0.1.1.6ecb 0.1.1.6f22",
  "0.1.1.701e 0.1.1.716e 0.1.1.77a7 0.1.1.7235 0.1.1.72af 0.1.1.732a 0.1.1.7471 0.1.1.7506 0.1.1.753b",
  "0.1.1.761d 0.1.1.761f 0.1.1.76ca 0.1.1.76db 0.1.1.76f4 0.1.1.774a 0.1.1.7740 0.1.1.78cc 0.1.1.7ab1",
  "0.1.1.7bc0 0.1.1.7c7b 0.1.1.7d5b 0.1.1.7df4 0.1.1.7f3e 0.1.1.8005 0.1.1.8352 0.1.1.83ef 0.1.1.8779",
  "0.1.1.8941 0.1.1.8986 0.1.1.8996 0.1.1.8abf 0.1.1.8af8 0.1.1.8acb 0.1.1.8b01 0.1.1.8afe 0.1.1.8aed",
  "0.1.1.8b39 0.1.1.8b8a 0.1.1.8d08 0.1.1.8f38 0.1.1.9072 0.1.1.9199 0.1.1.9276 0.1.1.967c 0.1.1.96e3",
  "0.1.1.9756 0.1.1.97db 0.1.1.97ff 0.1.1.980b 0.1.1.983b 0.1.1.9b12 0.1.1.9f9c 0.1.1.2284a 0.1.1.22844",
  "0.1.1.233d5 0.1.1.3b9d 0.1.1.4018 0.1.1.4039 0.1.1.25249 0.1.1.25cd0 0.1.1.27ed3 0.1.1.9f43 0.1.1.9f8e",
  "46.1.1.5e2 0.1.1.5d0 0.2.1.5d3 0.3.1.5db 0.1.1.5e8 0.1.1.5ea 0.1.1.2b 26.1.1.671 0.1.1.671 0.1.1.67b",
  "0.1.1.67b 0.1.1.67b 0.1.1.67b 0.1.1.67e 0.1.1.67e 0.1.1.67e 0.1.1.67e 0.1.1.680 0.1.1.680 0.1.1.680",
  "0.1.1.680 0.1.1.67a 0.1.1.67a 0.1.1.67a 0.1.1.67a 0.1.1.67f 0.1.1.67f 0.1.1.67f 0.1.1.67f 0.1.1.679",
  "0.1.1.679 0.1.1.679 0.1.1.679 0.1.1.6a4 0.1.1.6a4 0.1.1.6a4 0.1.1.6a4 0.1.1.6a6 0.1.1.6a6 0.1.1.6a6",
  "0.1.1.6a6 0.1.1.684 0.1.1.684 0.1.1.684 0.1.1.684 0.1.1.683 0.1.1.683 0.1.1.683 0.1.1.683 0.1.1.686",
  "0.1.1.686 0.1.1.686 0.2.1.686 0.1.1.687 0.1.1.687 0.1.1.687 0.1.1.68d 0.1.1.68d 0.1.1.68c 0.1.1.68c",
  "0.1.1.68e 0.1.1.68e 0.1.1.688 0.1.1.688 0.1.1.698 0.1.1.698 0.1.1.691 0.1.1.691 0.1.1.6a9 0.1.1.6a9",
  "0.1.1.6a9 0.1.1.6a9 0.1.1.6af 0.1.1.6af 0.1.1.6af 0.1.1.6af 0.1.1.6b3 0.1.1.6b3 0.1.1.6b3 0.1.1.6b3",
  "0.1.1.6b1 0.1.1.6b1 0.1.1.6b1 0.1.1.6b1 0.1.1.6ba 0.2.1.6ba 0.1.1.6bb 0.1.1.6bb 0.1.1.6bb 0.1.1.6c0",
  "0.2.1.6c0 0.1.1.6c1 0.1.1.6c1 0.1.1.6c1 0.1.1.6be 0.1.1.6be 0.1.1.6be 0.1.1.6be 0.1.1.6d2 0.2.1.6d2",
  "0.1.1.6d3 21.1.1.6ad 0.1.1.6ad 0.1.1.6ad 0.1.1.6ad 0.1.1.6c7 0.1.1.6c7 0.1.1.6c6 0.1.1.6c6 0.1.1.6c8",
  "0.1.1.6c8 1.1.1.6cb 0.1.1.6cb 0.1.1.6c5 0.1.1.6c5 0.1.1.6c9 0.1.1.6c9 0.1.1.6d0 0.1.1.6d0 0.1.1.6d0",
  "0.1.1.6d0 0.1.1.649 0.1.1.649 12.1.1.6cc 0.1.1.6cc 0.1.1.6cc 0.1.1.6cc 210.1.1.2c 0.1.1.3001 1.2.1.3a",
  "0.1.1.21 0.1.1.3f 0.2.1.3016 18.1.1.2014 0.1.1.2013 0.1.1.5f 0.1.1.5f 0.2.1.28 0.1.1.7b 0.1.1.7d",
  "0.2.1.3014 0.2.1.3010 0.2.1.300a 0.2.1.3008 0.4.1.300c 2.1.1.5b 0.1.1.5d 4.1.1.5f 0.1.1.5f 0.1.1.5f",
  "0.1.1.2c 0.1.1.3001 2.1.1.3b 0.1.1.3a 0.1.1.3f 0.1.1.21 0.1.1.2014 0.2.1.28 0.1.1.7b 0.1.1.7d 0.2.1.3014",
  "0.1.1.23 0.1.1.26 0.2.1.2a 0.1.1.2d 0.1.1.3c 0.1.1.3e 0.1.1.3d 1.1.1.5c 0.2.1.24 0.1.1.40 14.2.1.621",
  "0.2.1.622 0.2.1.623 0.2.1.624 0.2.1.625 0.1.1.626 0.1.1.626 0.2.1.626 0.2.1.627 0.1.1.628 0.1.1.628",
  "0.2.1.628 0.2.1.629 0.1.1.62a 0.1.1.62a 0.2.1.62a 0.1.1.62b 0.1.1.62b 0.2.1.62b 0.1.1.62c 0.1.1.62c",
  "0.2.1.62c 0.1.1.62d 0.1.1.62d 0.2.1.62d 0.1.1.62e 0.1.1.62e 0.2.1.62e 0.2.1.62f 0.2.1.630 0.2.1.631",
  "0.2.1.632 0.1.1.633 0.1.1.633 0.2.1.633 0.1.1.634 0.1.1.634 0.2.1.634 0.1.1.635 0.1.1.635 0.2.1.635",
  "0.1.1.636 0.1.1.636 0.2.1.636 0.1.1.637 0.1.1.637 0.2.1.637 0.1.1.638 0.1.1.638 0.2.1.638 0.1.1.639",
  "0.1.1.639 0.2.1.639 0.1.1.63a 0.1.1.63a 0.1.1.63a 0.1.1.641 0.1.1.641 0.1.1.641 0.2.1.641 0.1.1.642",
  "0.1.1.642 0.2.1.642 0.1.1.643 0.1.1.643 0.2.1.643 0.1.1.644 0.1.1.644 0.2.1.644 0.1.1.645 0.1.1.645",
  "0.2.1.645 0.1.1.646 0.1.1.646 0.2.1.646 0.1.1.647 0.1.1.647 0.2.1.647 0.2.1.648 0.2.1.649 0.1.1.64a",
  "0.1.1.64a 0.1.1.64a c.20.1.21 0.1a.1.61 0.24.1.5b 0.2.1.2985 0.1.1.2e 0.2.1.300c 0.1.1.3001 0.1.1.30fb",
  "0.1.1.30f2 0.1.1.30a1 0.1.1.30a3 0.1.1.30a5 0.1.1.30a7 0.1.1.30a9 0.1.1.30e3 0.1.1.30e5 0.1.1.30e7",
  "0.1.1.30c3 0.1.1.30fc 0.1.1.30a2 0.1.1.30a4 0.1.1.30a6 0.1.1.30a8 0.2.1.30aa 0.1.1.30ad 0.1.1.30af",
  "0.1.1.30b1 0.1.1.30b3 0.1.1.30b5 0.1.1.30b7 0.1.1.30b9 0.1.1.30bb 0.1.1.30bd 0.1.1.30bf 0.1.1.30c1",
  "0.1.1.30c4 0.1.1.30c6 0.1.1.30c8 0.6.1.30ca 0.1.1.30d2 0.1.1.30d5 0.1.1.30d8 0.1.1.30db 0.5.1.30de",
  "0.1.1.30e4 0.1.1.30e6 0.6.1.30e8 0.1.1.30ef 0.1.1.30f3 0.2.1.3099 1.2.1.1100 0.1.1.11aa 0.1.1.1102",
  "0.2.1.11ac 0.3.1.1103 0.6.1.11b0 0.1.1.111a 0.3.1.1106 0.1.1.1121 0.a.1.1109 3.6.1.1161 2.6.1.1167",
  "2.6.1.116d 2.3.1.1173 3.2.1.a2 0.1.1.ac 1.1.1.a6 0.1.1.a5 0.1.1.20a9 1.1.1.2502 0.4.1.2190 0.1.1.25a0",
  "0.1.1.25cb 411.28.1.10428 88.24.1.104d8 9c.b.1.10597 1.f.1.105a3 1.7.1.105b3 1.2.1.105bb 1eb.2.1.2d0",
  "0.1.1.e6 0.1.1.299 0.1.1.253 1.1.1.2a3 0.1.1.ab66 0.1.1.2a5 0.1.1.2a4 0.2.1.256 0.1.1.1d91 0.1.1.258",
  "0.1.1.25e 0.1.1.2a9 0.1.1.264 0.1.1.262 0.1.1.260 0.1.1.29b 0.1.1.127 0.1.1.29c 0.1.1.267 0.1.1.284",
  "0.2.1.2aa 0.1.1.26c 0.1.1.1df04 0.1.1.a78e 0.1.1.26e 0.1.1.1df05 0.1.1.28e 0.1.1.1df06 0.1.1.f8 0.2.1.276",
  "0.1.1.71 0.1.1.27a 0.1.1.1df08 0.2.1.27d 0.1.1.280 0.1.1.2a8 0.1.1.2a6 0.1.1.ab67 0.1.1.2a7 0.1.1.288",
  "0.1.1.2c71 1.1.1.28f 0.2.1.2a1 0.1.1.298 0.3.1.1c0 0.1.1.1df0a 0.1.1.1df1e 4c5.33.1.10cc0 9d.16.1.10d70",
  "b3a.20.1.118c0 5580.20.1.16e60 40.19.1.16ebb 5e1d.1a.1.61 0.a.1.30 706.1a.1.61 0.1a.1.61 0.1a.1.61",
  "0.7.1.61 1.12.1.69 0.1a.1.61 0.1a.1.61 0.2.2.61 0.1.1.64 2.1.1.67 2.2.1.6a 2.4.1.6e 1.8.1.73 0.4.1.61",
  "1.2.2.66 0.6.1.69 1.b.1.70 0.1a.1.61 0.1a.1.61 0.2.1.61 1.4.1.64 2.8.1.6a 1.7.1.73 1.1a.1.61 0.2.1.61",
  "1.4.1.64 1.5.1.69 1.1.1.6f 3.7.1.73 1.1a.1.61 0.1a.1.61 0.1a.1.61 0.1a.1.61 0.1a.1.61 0.1a.1.61 0.1a.1.61",
  "0.1a.1.61 0.1a.1.61 0.1a.1.61 0.1a.1.61 0.1a.1.61 0.1a.1.61 0.1.1.131 0.1.1.237 2.11.1.3b1 0.1.1.3b8",
  "0.7.1.3c3 0.1.1.2207 0.11.1.3b1 0.1.1.3c3 0.7.1.3c3 0.1.1.2202 0.1.1.3b5 0.1.1.3b8 0.1.1.3ba 0.1.1.3c6",
  "0.1.1.3c1 0.1.1.3c0 0.11.1.3b1 0.1.1.3b8 0.7.1.3c3 0.1.1.2207 0.11.1.3b1 0.1.1.3c3 0.7.1.3c3 0.1.1.2202",
  "0.1.1.3b5 0.1.1.3b8 0.1.1.3ba 0.1.1.3c6 0.1.1.3c1 0.1.1.3c0 0.11.1.3b1 0.1.1.3b8 0.7.1.3c3 0.1.1.2207",
  "0.11.1.3b1 0.1.1.3c3 0.7.1.3c3 0.1.1.2202 0.1.1.3b5 0.1.1.3b8 0.1.1.3ba 0.1.1.3c6 0.1.1.3c1 0.1.1.3c0",
  "0.11.1.3b1 0.1.1.3b8 0.7.1.3c3 0.1.1.2207 0.11.1.3b1 0.1.1.3c3 0.7.1.3c3 0.1.1.2202 0.1.1.3b5 0.1.1.3b8",
  "0.1.1.3ba 0.1.1.3c6 0.1.1.3c1 0.1.1.3c0 0.11.1.3b1 0.1.1.3b8 0.7.1.3c3 0.1.1.2207 0.11.1.3b1 0.1.1.3c3",
  "0.7.1.3c3 0.1.1.2202 0.1.1.3b5 0.1.1.3b8 0.1.1.3ba 0.1.1.3c6 0.1.1.3c1 0.1.1.3c0 0.1.1.3dd 0.1.1.3dd",
  "2.a.1.30 0.a.1.30 0.a.1.30 0.a.1.30 0.a.1.30 830.9.1.430 0.3.1.43a 0.b.1.43e 0.1.1.44b 0.2.1.44d",
  "0.1.1.a689 0.1.1.4d9 0.1.1.456 0.1.1.458 0.1.1.4e9 0.1.1.4af 0.1.1.4cf 0.9.1.430 0.2.1.43a 0.2.1.43e",
  "0.1.1.441 0.6.1.443 0.2.1.44a 0.1.1.491 0.1.1.456 0.1.1.455 0.1.1.45f 0.1.1.4ab 0.1.1.a651 0.1.1.4b1",
  "892.22.1.1e922 4de.2.1.627 0.1.1.62c 0.1.1.62f 1.1.1.648 0.1.1.632 0.1.1.62d 0.1.1.637 0.1.1.64a 0.4.1.643",
  "0.1.1.633 0.1.1.639 0.1.1.641 0.1.1.635 0.1.1.642 0.1.1.631 0.1.1.634 0.2.1.62a 0.1.1.62e 0.1.1.630",
  "0.1.1.636 0.1.1.638 0.1.1.63a 0.1.1.66e 0.1.1.6ba 0.1.1.6a1 0.1.1.66f 1.1.1.628 0.1.1.62c 1.1.1.647",
  "2.1.1.62d 1.1.1.64a 0.4.1.643 0.1.1.633 0.1.1.639 0.1.1.641 0.1.1.635 0.1.1.642 1.1.1.634 0.2.1.62a",
  "0.1.1.62e 1.1.1.636 1.1.1.63a 6.1.1.62c 4.1.1.62d 1.1.1.64a 1.2.2.644 0.1.1.633 0.1.1.639 1.1.1.635",
  "0.1.1.642 1.1.1.634 2.1.1.62e 1.1.1.636 1.1.1.63a 1.1.1.6ba 1.1.1.66f 1.1.1.628 0.1.1.62c 1.1.1.647",
  "2.1.1.62d 0.1.1.637 0.1.1.64a 0.2.2.643 0.1.1.646 0.1.1.633 0.1.1.639 0.1.1.641 0.1.1.635 0.1.1.642",
  "1.1.1.634 0.2.1.62a 0.1.1.62e 1.1.1.636 0.1.1.638 0.1.1.63a 0.1.1.66e 1.1.1.6a1 1.2.1.627 0.1.1.62c",
  "0.1.1.62f 0.2.1.647 0.1.1.632 0.1.1.62d 0.1.1.637 0.1.1.64a 1.3.1.644 0.1.1.633 0.1.1.639 0.1.1.641",
  "0.1.1.635 0.1.1.642 0.1.1.631 0.1.1.634 0.2.1.62a 0.1.1.62e 0.1.1.630 0.1.1.636 0.1.1.638 0.1.1.63a",
  "5.1.1.628 0.1.1.62c 0.1.1.62f 1.1.1.648 0.1.1.632 0.1.1.62d 0.1.1.637 0.1.1.64a 1.3.1.644 0.1.1.633",
  "0.1.1.639 0.1.1.641 0.1.1.635 0.1.1.642 0.1.1.631 0.1.1.634 0.2.1.62a 0.1.1.62e 0.1.1.630 0.1.1.636",
  "0.1.1.638 0.1.1.63a 26f.1.1.63 0.1.1.72 3.1a.1.61 b8.1.1.30b5 d.1.1.624b 0.1.1.5b57 0.1.1.53cc 0.1.1.30c7",
  "0.1.1.4e8c 0.1.1.591a 0.1.1.89e3 0.1.1.5929 0.1.1.4ea4 0.1.1.6620 0.1.1.7121 0.1.1.6599 0.1.1.524d",
  "0.1.1.5f8c 0.1.1.518d 0.1.1.65b0 0.1.1.521d 0.1.1.7d42 0.1.1.751f 0.1.1.8ca9 0.1.1.58f0 0.1.1.5439",
  "0.1.1.6f14 0.1.1.6295 0.1.1.6355 0.1.1.4e00 0.1.1.4e09 0.1.1.904a 0.1.1.5de6 0.1.1.4e2d 0.1.1.53f3",
  "0.1.1.6307 0.1.1.8d70 0.1.1.6253 0.1.1.7981 0.1.1.7a7a 0.1.1.5408 0.1.1.6e80 0.1.1.6709 0.1.1.6708",
  "0.1.1.7533 0.1.1.5272 0.1.1.55b6 0.1.1.914d 14.1.1.5f97 0.1.1.53ef 99e.a.1.30 fc06.1.1.4e3d 0.1.1.4e38",
  "0.1.1.4e41 0.1.1.20122 0.1.1.4f60 0.1.1.4fae 0.1.1.4fbb 0.1.1.5002 0.1.1.507a 0.1.1.5099 0.1.1.50e7",
  "0.1.1.50cf 0.1.1.349e 0.1.1.2063a 0.1.1.514d 0.1.1.5154 0.1.1.5164 0.1.1.5177 0.1.1.2051c 0.1.1.34b9",
  "0.1.1.5167 0.1.1.518d 0.1.1.2054b 0.1.1.5197 0.1.1.51a4 0.1.1.4ecc 0.1.1.51ac 0.1.1.51b5 0.1.1.291df",
  "0.1.1.51f5 0.1.1.5203 0.1.1.34df 0.1.1.523b 0.1.1.5246 0.1.1.5272 0.1.1.5277 0.1.1.3515 0.1.1.52c7",
  "0.1.1.52c9 0.1.1.52e4 0.1.1.52fa 0.2.1.5305 0.1.1.5317 0.1.1.5349 0.1.1.5351 0.1.1.535a 0.1.1.5373",
  "0.1.1.537d 0.1.1.537f 0.1.1.537f 0.1.1.537f 0.1.1.20a2c 0.1.1.7070 0.1.1.53ca 0.1.1.53df 0.1.1.20b63",
  "0.1.1.53eb 0.1.1.53f1 0.1.1.5406 0.1.1.549e 0.1.1.5438 0.1.1.5448 0.1.1.5468 0.1.1.54a2 0.1.1.54f6",
  "0.1.1.5510 0.1.1.5553 0.1.1.5563 0.1.1.5584 0.1.1.5584 0.1.1.5599 0.1.1.55ab 0.1.1.55b3 0.1.1.55c2",
  "0.1.1.5716 0.1.1.5606 0.1.1.5717 0.1.1.5651 0.1.1.5674 0.1.1.5207 0.1.1.58ee 0.1.1.57ce 0.1.1.57f4",
  "0.1.1.580d 0.1.1.578b 0.1.1.5832 0.1.1.5831 0.1.1.58ac 0.1.1.214e4 0.1.1.58f2 0.1.1.58f7 0.1.1.5906",
  "0.1.1.591a 0.1.1.5922 0.1.1.5962 0.1.1.216a8 0.1.1.216ea 0.1.1.59ec 0.1.1.5a1b 0.1.1.5a27 0.1.1.59d8",
  "0.1.1.5a66 0.1.1.36ee 0.1.1.36fc 0.1.1.5b08 0.1.1.5b3e 0.1.1.5b3e 0.1.1.219c8 0.1.1.5bc3 0.1.1.5bd8",
  "0.1.1.5be7 0.1.1.5bf3 0.1.1.21b18 0.1.1.5bff 0.1.1.5c06 0.1.1.5f53 0.1.1.5c22 0.1.1.3781 0.1.1.5c60",
  "0.1.1.5c6e 0.1.1.5cc0 0.1.1.5c8d 0.1.1.21de4 0.1.1.5d43 0.1.1.21de6 0.1.1.5d6e 0.1.1.5d6b 0.1.1.5d7c",
  "0.2.1.5de1 0.1.1.382f 0.1.1.5dfd 0.1.1.5e28 0.1.1.5e3d 0.1.1.5e69 0.1.1.3862 0.1.1.22183 0.1.1.387c",
  "0.1.1.5eb0 0.1.1.5eb3 0.1.1.5eb6 0.1.1.5eca 0.1.1.2a392 0.1.1.5efe 0.1.1.22331 0.1.1.22331 0.1.1.8201",
  "0.1.1.5f22 0.1.1.5f22 0.1.1.38c7 0.1.1.232b8 0.1.1.261da 0.1.1.5f62 0.1.1.5f6b 0.1.1.38e3 0.1.1.5f9a",
  "0.1.1.5fcd 0.1.1.5fd7 0.1.1.5ff9 0.1.1.6081 0.1.1.393a 0.1.1.391c 0.1.1.6094 0.1.1.226d4 0.1.1.60c7",
  "0.1.1.6148 0.1.1.614c 0.1.1.614e 0.1.1.614c 0.1.1.617a 0.1.1.618e 0.1.1.61b2 0.1.1.61a4 0.1.1.61af",
  "0.1.1.61de 0.1.1.61f2 0.1.1.61f6 0.1.1.6210 0.1.1.621b 0.1.1.625d 0.1.1.62b1 0.1.1.62d4 0.1.1.6350",
  "0.1.1.22b0c 0.1.1.633d 0.1.1.62fc 0.1.1.6368 0.1.1.6383 0.1.1.63e4 0.1.1.22bf1 0.1.1.6422 0.1.1.63c5",
  "0.1.1.63a9 0.1.1.3a2e 0.1.1.6469 0.1.1.647e 0.1.1.649d 0.1.1.6477 0.1.1.3a6c 0.1.1.654f 0.1.1.656c",
  "0.1.1.2300a 0.1.1.65e3 0.1.1.66f8 0.1.1.6649 0.1.1.3b19 0.1.1.6691 0.1.1.3b08 0.1.1.3ae4 0.1.1.5192",
  "0.1.1.5195 0.1.1.6700 0.1.1.669c 0.1.1.80ad 0.1.1.43d9 0.1.1.6717 0.1.1.671b 0.1.1.6721 0.1.1.675e",
  "0.1.1.6753 0.1.1.233c3 0.1.1.3b49 0.1.1.67fa 0.1.1.6785 0.1.1.6852 0.1.1.6885 0.1.1.2346d 0.1.1.688e",
  "0.1.1.681f 0.1.1.6914 0.1.1.3b9d 0.1.1.6942 0.1.1.69a3 0.1.1.69ea 0.1.1.6aa8 0.1.1.236a3 0.1.1.6adb",
  "0.1.1.3c18 0.1.1.6b21 0.1.1.238a7 0.1.1.6b54 0.1.1.3c4e 0.1.1.6b72 0.1.1.6b9f 0.2.1.6bba 0.1.1.23a8d",
  "0.1.1.21d0b 0.1.1.23afa 0.1.1.6c4e 0.1.1.23cbc 0.1.1.6cbf 0.1.1.6ccd 0.1.1.6c67 0.1.1.6d16 0.1.1.6d3e",
  "0.1.1.6d77 0.1.1.6d41 0.1.1.6d69 0.1.1.6d78 0.1.1.6d85 0.1.1.23d1e 0.1.1.6d34 0.1.1.6e2f 0.1.1.6e6e",
  "0.1.1.3d33 0.1.1.6ecb 0.1.1.6ec7 0.1.1.23ed1 0.1.1.6df9 0.1.1.6f6e 0.1.1.23f5e 0.1.1.23f8e 0.1.1.6fc6",
  "0.1.1.7039 0.1.1.701e 0.1.1.701b 0.1.1.3d96 0.1.1.704a 0.1.1.707d 0.1.1.7077 0.1.1.70ad 0.1.1.20525",
  "0.1.1.7145 0.1.1.24263 0.1.1.719c 0.1.1.243ab 0.1.1.7228 0.1.1.7235 0.1.1.7250 0.1.1.24608 0.1.1.7280",
  "0.1.1.7295 0.1.1.24735 0.1.1.24814 0.1.1.737a 0.1.1.738b 0.1.1.3eac 0.1.1.73a5 0.1.1.3eb8 0.1.1.3eb8",
  "0.1.1.7447 0.1.1.745c 0.1.1.7471 0.1.1.7485 0.1.1.74ca 0.1.1.3f1b 0.1.1.7524 0.1.1.24c36 0.1.1.753e",
  "0.1.1.24c92 0.1.1.7570 0.1.1.2219f 0.1.1.7610 0.1.1.24fa1 0.1.1.24fb8 0.1.1.25044 0.1.1.3ffc 0.1.1.4008",
  "0.1.1.76f4 0.1.1.250f3 0.1.1.250f2 0.1.1.25119 0.1.1.25133 0.2.1.771e 0.1.1.771f 0.1.1.774a 0.1.1.4039",
  "0.1.1.778b 0.1.1.4046 0.1.1.4096 0.1.1.2541d 0.1.1.784e 0.1.1.788c 0.1.1.78cc 0.1.1.40e3 0.1.1.25626",
  "0.1.1.7956 0.1.1.2569a 0.1.1.256c5 0.1.1.798f 0.1.1.79eb 0.1.1.412f 0.1.1.7a40 0.1.1.7a4a 0.1.1.7a4f",
  "0.1.1.2597c 0.1.1.25aa7 0.1.1.25aa7 0.1.1.7aee 0.1.1.4202 0.1.1.25bab 0.1.1.7bc6 0.1.1.7bc9 0.1.1.4227",
  "0.1.1.25c80 0.1.1.7cd2 0.1.1.42a0 0.1.1.7ce8 0.1.1.7ce3 0.1.1.7d00 0.1.1.25f86 0.1.1.7d63 0.1.1.4301",
  "0.1.1.7dc7 0.1.1.7e02 0.1.1.7e45 0.1.1.4334 0.1.1.26228 0.1.1.26247 0.1.1.4359 0.1.1.262d9 0.1.1.7f7a",
  "0.1.1.2633e 0.1.1.7f95 0.1.1.7ffa 0.1.1.8005 0.1.1.264da 0.1.1.26523 0.1.1.8060 0.1.1.265a8 0.1.1.8070",
  "0.1.1.2335f 0.1.1.43d5 0.1.1.80b2 0.1.1.8103 0.1.1.440b 0.1.1.813e 0.1.1.5ab5 0.1.1.267a7 0.1.1.267b5",
  "0.1.1.23393 0.1.1.2339c 0.1.1.8201 0.1.1.8204 0.1.1.8f9e 0.1.1.446b 0.1.1.8291 0.1.1.828b 0.1.1.829d",
  "0.1.1.52b3 0.1.1.82b1 0.1.1.82b3 0.1.1.82bd 0.1.1.82e6 0.1.1.26b3c 0.1.1.82e5 0.1.1.831d 0.1.1.8363",
  "0.1.1.83ad 0.1.1.8323 0.1.1.83bd 0.1.1.83e7 0.1.1.8457 0.1.1.8353 0.1.1.83ca 0.1.1.83cc 0.1.1.83dc",
  "0.1.1.26c36 0.1.1.26d6b 0.1.1.26cd5 0.1.1.452b 0.1.1.84f1 0.1.1.84f3 0.1.1.8516 0.1.1.273ca 0.1.1.8564",
  "0.1.1.26f2c 0.1.1.455d 0.1.1.4561 0.1.1.26fb1 0.1.1.270d2 0.1.1.456b 0.1.1.8650 0.1.1.865c 0.1.1.8667",
  "0.1.1.8669 0.1.1.86a9 0.1.1.8688 0.1.1.870e 0.1.1.86e2 0.1.1.8779 0.1.1.8728 0.1.1.876b 0.1.1.8786",
  "0.1.1.45d7 0.1.1.87e1 0.1.1.8801 0.1.1.45f9 0.1.1.8860 0.1.1.8863 0.1.1.27667 0.1.1.88d7 0.1.1.88de",
  "0.1.1.4635 0.1.1.88fa 0.1.1.34bb 0.1.1.278ae 0.1.1.27966 0.1.1.46be 0.1.1.46c7 0.1.1.8aa0 0.1.1.8aed",
  "0.1.1.8b8a 0.1.1.8c55 0.1.1.27ca8 0.1.1.8cab 0.1.1.8cc1 0.1.1.8d1b 0.1.1.8d77 0.1.1.27f2f 0.1.1.20804",
  "0.1.1.8dcb 0.1.1.8dbc 0.1.1.8df0 0.1.1.208de 0.1.1.8ed4 0.1.1.8f38 0.1.1.285d2 0.1.1.285ed 0.1.1.9094",
  "0.1.1.90f1 0.1.1.9111 0.1.1.2872e 0.1.1.911b 0.1.1.9238 0.2.1.92d7 0.1.1.927c 0.1.1.93f9 0.1.1.9415",
  "0.1.1.28bfa 0.1.1.958b 0.1.1.4995 0.1.1.95b7 0.1.1.28d77 0.1.1.49e6 0.1.1.96c3 0.1.1.5db2 0.1.1.9723",
  "0.1.1.29145 0.1.1.2921a 0.1.1.4a6e 0.1.1.4a76 0.1.1.97e0 0.1.1.2940a 0.1.1.4ab2 0.1.1.29496 0.1.1.980b",
  "0.1.1.980b 0.1.1.9829 0.1.1.295b6 0.1.1.98e2 0.1.1.4b33 0.1.1.9929 0.1.1.99a7 0.1.1.99c2 0.1.1.99fe",
  "0.1.1.4bce 0.1.1.29b30 0.1.1.9b12 0.1.1.9c40 0.1.1.9cfd 0.1.1.4cce 0.1.1.4ced 0.1.1.9d67 0.1.1.2a0ce",
  "0.1.1.4cf8 0.1.1.2a105 0.1.1.2a20e 0.1.1.2a291 0.1.1.9ebb 0.1.1.4d56 0.1.1.9ef9 0.1.1.9efe 0.1.1.9f05",
  "0.1.1.9f0f 0.1.1.9f16 0.1.1.9f3b 0.1.1.2a600"]

end Availability.Url.Domain
